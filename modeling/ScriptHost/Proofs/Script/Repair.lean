import ScriptHost.Boundary.Outward
import ScriptHost.Proofs.Script.Depth
import ScriptHost.Proofs.Script.Replace
import ScriptHost.Proofs.Text.Lossy

/-!
# The function that makes strings well formed

The source of that function is read and run like any other.  It spells one function, which calls
the method `replace` of its argument with a pattern for unpaired surrogates.  In a realm that
has left the methods for replacing alone it repairs every string, unless the engine runs out of
stack or of memory.
-/

namespace ScriptHost.Script

variable {h₀ h h' : Heap} {ev : Evaluator}

/-! ## Reading the source -/

/-- The call that replaces unpaired surrogates of the argument. -/
def repairCall : Expr :=
  .callOn (.field (.get (.name (text "s"))) (text "replace"))
    [.pattern ⟨Units.unpairedPattern, true⟩, .literal (.string [Units.replacementUnit])]

def repairStmt : Stmt := .return (some repairCall)

/-- The function that makes strings well formed, with the text that it was read from. -/
def repairLambda (source : Units) : Lambda :=
  .mk [] .ordinary .none [text "s"] false [repairStmt] source

/-- Whether a program does nothing but make that function. -/
def makesRepair (body : List Stmt) : Bool :=
  match body with
  | [.expr (.function (.mk [] .ordinary .none [x] false
      [.return (some (.callOn (.field (.get (.name y)) method)
        [.pattern ⟨p, true⟩, .literal (.string r)]))] _))] =>
    x = text "s" ∧ y = text "s" ∧ method = text "replace" ∧ p = Units.unpairedPattern ∧
      r = [Units.replacementUnit]
  | _ => false

theorem eq_of_makesRepair {body : List Stmt} (hmakes : makesRepair body = true) :
    ∃ source, body = [.expr (.function (repairLambda source))] := by
  unfold makesRepair at hmakes
  split at hmakes
  · obtain ⟨rfl, rfl, rfl, rfl, rfl⟩ := of_decide_eq_true hmakes
    exact ⟨_, rfl⟩
  · cases hmakes

/-- The stack that it takes to read the source. -/
def repairRoom : Nat := 119

theorem parse_wellFormedSource :
    ∃ source,
      parse repairRoom wellFormedSource = .ok [.expr (.function (repairLambda source))] := by
  have hmakes : (parse repairRoom wellFormedSource).toOption.any makesRepair = true := by
    decide +kernel
  obtain ⟨body, hbody, hmakes⟩ := (Option.any_eq_true _ _).mp hmakes
  obtain ⟨source, rfl⟩ := eq_of_makesRepair hmakes
  cases hparse : parse repairRoom wellFormedSource with
  | error r =>
      rw [hparse] at hbody
      cases hbody
  | ok body' =>
      rw [hparse] at hbody
      cases hbody
      exact ⟨source, rfl⟩

/-- However much stack there is, the source is read or the stack runs out. -/
theorem parse_wellFormedSource_or (room : Nat) :
    parse room wellFormedSource = .error .tooDeep ∨
      ∃ source, parse room wellFormedSource = .ok [.expr (.function (repairLambda source))] := by
  obtain ⟨source, hsource⟩ := parse_wellFormedSource
  by_cases hroom : room ≤ repairRoom
  · refine (parse_readsAs hroom wellFormedSource).imp id fun h => ⟨source, ?_⟩
    rw [h, hsource]
  · refine .inr ⟨source, ?_⟩
    rcases parse_readsAs (Nat.le_of_not_le hroom) wellFormedSource with h | h
    · rw [hsource] at h
      cases h
    · rw [← h, hsource]

/-! ## The body of the function -/

/-- A name means what the scope declares that it is looked up in. -/
theorem Heap.resolve?_own {r : ScopeRef} {n : Name} {b : Binding}
    (hfind : (h.scope r).find? n = some b) : h.resolve? r n = some (r, b) := by
  change Heap.resolve?.go h n (r + 1) r = _
  simp only [Heap.resolve?.go, hfind]

/-- A name that has a value gives it. -/
theorem getName_resolved (ev : Evaluator) {env : Env} {n : Name} {r : ScopeRef} {v : Val}
    {mutable : Bool} (hresolve : h.resolve? env.scope n = some (r, ⟨some v, mutable⟩)) :
    exprRule ev env (.get (.name n)) h = .finished h (.returned v) := by
  have hread : readName ev env n (raiseUndeclared n) h = .finished h (.returned v) := by
    refine (Action.bind_finished (rfl : Action.read _ h = _)).trans ?_
    rw [hresolve]
    rfl
  have htarget : readTarget ev env (.name n) h = .finished h (.returned (v, .undefined)) :=
    (Action.bind_finished hread).trans rfl
  exact (Action.bind_finished htarget).trans rfl

/-- The environment of a body sees the argument of the call. -/
theorem enterBody_repairLambda (source : Units) (scope : ScopeRef) (receiver v : Val)
    (hx : h₀.Extended h) :
    ∃ h' env, enterBody (repairLambda source) scope receiver [v] h = .finished h' (.returned env) ∧
      h₀.Extended h' ∧
        h'.resolve? env.scope (text "s") = some (env.scope, ⟨some v, true⟩) := by
  obtain ⟨r, h₁, hallocate⟩ : ∃ r h₁, argumentsObject [v] h = .finished h₁ (.returned (.object r)) ∧
      h₀.Extended h₁ := ⟨_, _, rfl, hx.allocate _⟩
  let bindings : List (Name × Binding) :=
    [(text "s", ⟨some v, true⟩), (text "arguments", ⟨some (.object r), true⟩)]
  refine ⟨(h₁.allocateScope ⟨bindings, some scope⟩).2.modifyScope h₁.scopes.size id,
    { scope := h₁.scopes.size, receiver := receiver }, ?_,
    (hallocate.2.allocateScope _).modifyScope hallocate.2.scopes_le _, ?_⟩
  · have hstyle : ¬(repairLambda source).style = .arrow := fun h => by cases h
    have hhidden : ((bindParameters (repairLambda source).parameters [v]).any
        fun b => b.1 == text "arguments") = false := by
      have hne : (text "s" == text "arguments") = false := by decide
      simp [repairLambda, Lambda.parameters, bindParameters, hne]
    unfold enterBody
    rw [if_neg hstyle]
    refine (Action.bind_finished hallocate.1).trans ?_
    refine (Action.bind_finished (rfl : (pure _ : Action _) h₁ = _)).trans ?_
    dsimp only
    rw [hhidden]
    rfl
  · refine Heap.resolve?_own ?_
    have hsize : h₁.scopes.size < (h₁.allocateScope ⟨bindings, some scope⟩).2.scopes.size := by
      rw [Heap.allocateScope, Array.size_push]
      exact Nat.lt_succ_self _
    rw [Heap.scope_modifyScope, if_pos ⟨rfl, hsize⟩, Heap.scope_allocateScope, if_pos rfl]
    simp [Scope.find?, bindings]

/-- Calling `replace` on the argument repairs it. -/
theorem repairCall_yields (hi : h₀.RepairIntact) {calls : Evaluator} (hcalls : calls.Nests)
    (hx : h₀.Extended h) (env : Env) {r : ScopeRef} {s : Units} {mutable : Bool}
    (hresolve : h.resolve? env.scope (text "s") = some (r, ⟨some (.string s), mutable⟩)) (n : Nat) :
    Action.Yields h₀ h (fun _ v => v = .string s.repaired)
      ((bodyEvaluator calls (n + 2)).expr env repairCall) := by
  obtain ⟨owner, f, writable, enumerable, configurable, hfound, hcallable⟩ :=
    Heap.findProperty?_of_method? hi.replace
  let ev := bodyEvaluator calls (n + 1)
  let l : Pattern.Literal := ⟨Units.unpairedPattern, true⟩
  -- The method is looked up before the arguments are there.
  have hmethod : getProperty ev (.string s) (key "replace") h = .finished h (.returned f) := by
    have hown : stringProperty? s (key "replace") = none := by
      have hlength : (text "replace" == text "length") = false := by decide
      have hindex : (text "replace").arrayIndex? = none := by decide
      simp [stringProperty?, key, hlength, hindex]
    refine getProperty_found (v := .string s) ev rfl (fun t ht => ?_) (hx.findProperty? hfound)
    cases ht
    exact hown
  have htarget : readTarget ev env (.field (.get (.name (text "s"))) (text "replace")) h =
      .finished h (.returned (f, .string s)) :=
    (Action.bind_finished (getName_resolved _ hresolve)).trans
      ((Action.bind_finished hmethod).trans rfl)
  -- The pattern is a new object.
  let h' := (h.allocate (patternObject l (.int 0))).2
  have hx' : h₀.Extended h' := hx.allocate _
  have harguments : Action.each (ev.expr env)
      [.pattern l, .literal (.string [Units.replacementUnit])] h =
        .finished h' (.returned [.object h.size, .string [Units.replacementUnit]]) := rfl
  have hq : h₀.HasPattern h' h.size l :=
    ⟨hx', hx.size_le, h.lt_size_allocate _, .int 0, h.object_allocate_self _⟩
  refine .after htarget (.after harguments ?_)
  rw [bodyEvaluator_call]
  refine call_builtin_yields hcalls hx' (hx'.later.callable? hcallable) fun n stack => ?_
  rw [← Units.replaceAll_unpairedPattern]
  exact stringReplace_yields hi (nestedEvaluator_nests n stack) hq rfl s _

/-- The body answers the repaired argument. -/
theorem runBody_repairLambda_yields (hi : h₀.RepairIntact) {calls : Evaluator}
    (hcalls : calls.Nests) (hx : h₀.Extended h) (source : Units) (scope : ScopeRef)
    (receiver : Val) (s : Units) (n : Nat) :
    Action.Yields h₀ h (fun _ v => v = .string s.repaired)
      (runBody (bodyEvaluator calls (n + 3)) (repairLambda source) scope receiver [.string s]) := by
  obtain ⟨h₁, env, henter, hx₁, hresolve⟩ :=
    enterBody_repairLambda source scope receiver (.string s) hx
  have hcall := repairCall_yields hi hcalls hx₁ { env with labels := [] } hresolve n
  have hstmt : Action.Yields h₀ h₁ (fun _ flow => flow = .answer (.string s.repaired))
      ((bodyEvaluator calls (n + 3)).stmt env repairStmt) := by
    refine Action.Yields.bind hcall fun h₂ v hx₂ hv => .pure hx₂ ?_
    rw [hv]
  have hbody : Action.Yields h₀ h₁ (fun _ flow => flow = .answer (.string s.repaired))
      (runAll (bodyEvaluator calls (n + 3)) env (repairLambda source).body) := by
    refine hstmt.bind fun h₂ flow hx₂ hflow => ?_
    subst hflow
    exact .pure hx₂ rfl
  refine .after henter (hbody.bind fun h₂ flow hx₂ hflow => ?_)
  subst hflow
  exact .pure hx₂ rfl

/-! ## The program -/

/-- A value is the function that makes strings well formed. -/
def Heap.IsRepair (h : Heap) (f : Val) : Prop :=
  ∃ source scope outer, h.callable? f = some (.closure (repairLambda source) scope outer)

/-- The function is a new object, and so is what its instances inherit from. -/
theorem makeFunction_repairLambda (env : Env) (source : Units) (hx : h₀.Extended h) :
    ∃ h', makeFunction env (repairLambda source) h = .finished h' (.returned (.object h.size)) ∧
      h₀.Extended h' ∧ h'.scopes = h.scopes ∧ h'.IsRepair (.object h.size) := by
  obtain ⟨o, o', hcallable, hmake⟩ : ∃ o o' : Object,
      o.callable? = some (.closure (repairLambda source) env.scope env.receiver) ∧
        makeFunction env (repairLambda source) h =
          .finished ((h.allocate o).2.allocate o').2 (.returned (.object h.size)) :=
    ⟨_, _, rfl, rfl⟩
  refine ⟨_, hmake, (hx.allocate o).allocate o', rfl, source, env.scope, env.receiver, ?_⟩
  change (Heap.object _ h.size).callable? = _
  rw [Heap.object_allocate_of_lt _ _ (h.lt_size_allocate o), h.object_allocate_self, hcallable]

/-- The program makes the function, and that is the value of the script. -/
theorem runProgram_yields (stack : Stack) (source : Units) (hx : h₀.Extended h) :
    Action.Yields h₀ h Heap.IsRepair
      (runProgram stack [.expr (.function (repairLambda source))]) := by
  obtain ⟨calls, -, heval⟩ := nestedEvaluator_eq_bodyEvaluator stack.ofScript.room stack.ofScript
  let r : ScopeRef := h.scopes.size
  let noting : Scope := ⟨[(completionName, ⟨some .undefined, true⟩)], none⟩
  let env : Env :=
    { scope := Place.globalScope, receiver := .object Place.global, completion := some r }
  let h₁ := (h.allocateScope noting).2
  obtain ⟨h₂, hmake, hx₂, hscopes, hrepair⟩ :=
    makeFunction_repairLambda { env with labels := [] } source (hx.allocateScope noting)
  let f : Val := .object h₁.size
  let h₃ := h₂.modifyScope r fun s => s.assign completionName f
  have hx₃ : h₀.Extended h₃ := hx₂.modifyScope hx.scopes_le _
  have hstmt : (bodyEvaluator calls bodyDepth).stmt env (.expr (.function (repairLambda source)))
      h₁ = .finished h₃ (.returned .next) :=
    (Action.bind_finished hmake).trans rfl
  have hall : runAll (evaluator stack.ofScript) env [.expr (.function (repairLambda source))] h₁ =
      .finished h₃ (.returned .next) := by
    change runAll (nestedEvaluator _ _) _ _ _ = _
    rw [heval]
    exact (Action.bind_finished hstmt).trans rfl
  have hvalue : ((h₃.scope r).find? completionName).bind (·.value) = some f := by
    have hsize : r < h₂.scopes.size := by
      rw [hscopes, Heap.allocateScope, Array.size_push]
      exact Nat.lt_succ_self _
    have hnoting : h₂.scope r = noting := by
      rw [Heap.scope, hscopes]
      exact (h.scope_allocateScope noting r).trans (if_pos rfl)
    rw [h₂.scope_modifyScope, if_pos ⟨rfl, hsize⟩, hnoting]
    rfl
  refine framed_yields _ ?_
  refine .after (rfl : Action.update _ h = .finished h₁ (.returned r)) ?_
  refine .after (rfl : declareGlobals env _ h₁ = .finished h₁ (.returned ())) ?_
  refine .after hall (.returned (a := f) ?_ hx₃ hrepair)
  change Run.finished h₃ (.returned (((h₃.scope r).find? completionName).bind (·.value) |>.getD
    .undefined)) = _
  rw [hvalue]
  rfl

/-- Running the source makes the function. -/
theorem runSource_wellFormedSource_yields (stack : Stack) (hx : h₀.Extended h) :
    Action.Yields h₀ h Heap.IsRepair (Machine.runSource stack wellFormedSource) := by
  have hload : Machine.load stack wellFormedSource h = load stack wellFormedSource h := rfl
  unfold load at hload
  by_cases hmemory : h.grants wellFormedSource.utf8ByteSize = true
  · rw [if_pos hmemory] at hload
    rcases parse_wellFormedSource_or stack.room with hparse | ⟨source, hparse⟩
    · rw [hparse] at hload
      refine .congr ?_ (refusal_yields List.mem_cons_self (some "") hx)
      simp only [Machine.runSource, hload]
      rfl
    · rw [hparse] at hload
      refine .congr ?_ (runProgram_yields stack source hx)
      simp only [Machine.runSource, hload]
  · rw [if_neg hmemory] at hload
    refine .congr ?_ (refusal_yields (List.mem_cons_of_mem _ List.mem_cons_self) none hx)
    simp only [Machine.runSource, hload]

/-- The function repairs every string that it is called on. -/
theorem call_repair_yields (hi : h₀.RepairIntact) (hev : ev.Nests) (hx : h₀.Extended h) {f : Val}
    (hf : h.IsRepair f) (receiver : Val) (s : Units) :
    Action.Yields h₀ h (fun _ v => v = .string s.repaired) (ev.call f receiver [.string s]) := by
  obtain ⟨source, scope, outer, hcallable⟩ := hf
  refine call_closure_yields hev hx hcallable rfl rfl fun n stack => ?_
  obtain ⟨calls, hcalls, heval⟩ := nestedEvaluator_eq_bodyEvaluator n stack
  rw [heval]
  exact runBody_repairLambda_yields hi hcalls hx source scope receiver s 99997

/-- The string that the realm itself makes of a string. -/
def wellFormedString (stack : Stack) (s : Units) : Action Val := do
  let f ← Machine.runSource stack wellFormedSource
  (Machine.evaluator stack).call f .undefined [.string s]

theorem wellFormedString_yields (hi : h.RepairIntact) (stack : Stack) (s : Units) :
    Action.Yields h h (fun _ v => v = .string s.repaired) (wellFormedString stack s) :=
  (runSource_wellFormedSource_yields stack (.refl h)).bind fun _ _ hx hf =>
    call_repair_yields hi (nestedEvaluator_nests stack.room stack) hx hf .undefined s

/-- That string is text. -/
theorem toString?_repaired (s : Units) :
    (Units.repaired s).toString? = some (String.ofList s.decodeLossy) := by
  rw [Units.toString?, Units.decode_repaired]
  rfl

/-- In a realm that has left the methods for replacing alone, a string is repaired and read, or
the engine runs out of stack or of memory on the way. -/
theorem makeWellFormed_yields (hi : h.RepairIntact) (stack : Stack) (s : Units) :
    Action.Yields h h (fun _ t => t = .ok (String.ofList s.decodeLossy))
      (makeWellFormed stack s) := by
  refine (runSource_wellFormedSource_yields stack (.refl h)).bind fun h₁ f hx₁ hf => ?_
  have hiscallable : h₁.isCallable f = true := by
    obtain ⟨source, scope, outer, hcallable⟩ := hf
    rw [Heap.isCallable, hcallable]
    rfl
  have hcall : Action.Yields h h₁ (fun _ v => v = .string s.repaired)
      ((Machine.evaluator stack).call f .undefined [.string s]) :=
    call_repair_yields hi (nestedEvaluator_nests stack.room stack) hx₁ hf .undefined s
  refine .read hiscallable (hcall.bind fun h₂ v hx₂ hv => ?_)
  subst hv
  refine .returned rfl hx₂ ?_
  simp only [textOfReplaced, toString?_repaired]

end ScriptHost.Script
