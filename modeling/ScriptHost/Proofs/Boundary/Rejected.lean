import ScriptHost.Proofs.Boundary.NewRealm
import ScriptHost.Proofs.Boundary.Reported
import ScriptHost.Proofs.World.History

/-!
# Compile errors

An uncaught error is a compile error by its name.  An engine that cannot read a source throws
an error that may have this name, and so can a script that has been running for long.  So there
are two ways to a compile error: the source is refused with a syntax error, and then nothing of
it has run, or what ends the script or the function is an error whose name reads `SyntaxError`.
A source is refused for other reasons as well, such as a stack or a memory that has run out, but
then the error has another name.

Everything else that can go wrong around a script has a kind of its own, since no script was
asked: that is the first part.  The second is about the realm that a run is given.  It is new,
so no engine has been entered for it and the prototypes of errors are still as they were made,
and what the error of a refused source is reported as can be told from that.
-/

namespace ScriptHost

open Script (Action Ground Heap Object Outcome Refusal Run Val key text)

variable {φ γ σ α β : Type}

/-! ## Failures that are no compile errors -/

/-- The host is told that a source could not be compiled. -/
def FailsToCompile (result : Except Failure α) : Prop :=
  ∃ text, result = .error (.script (.compile text))

theorem FailsToCompile.not_ok {x : α} : ¬FailsToCompile (.ok x : Except Failure α) := by
  rintro ⟨t, h⟩
  cases h

/-- It is the failure alone that says so. -/
theorem FailsToCompile.error_iff {e : Failure} :
    FailsToCompile (.error e : Except Failure α) ↔ ∃ t, e = .script (.compile t) :=
  exists_congr fun _ => (Except.error.injEq _ _).to_iff

theorem FailsToCompile.not_error {e : Failure} (h : ∀ t, e ≠ .script (.compile t)) :
    ¬FailsToCompile (.error e : Except Failure α) :=
  FailsToCompile.error_iff.not.mpr (not_exists.mpr h)

/-- A failure is handed on, whatever was wanted. -/
theorem FailsToCompile.cast {e : Failure} (h : FailsToCompile (.error e : Except Failure α)) :
    FailsToCompile (.error e : Except Failure β) :=
  FailsToCompile.error_iff.mpr (FailsToCompile.error_iff.mp h)

/-- A failure of the first of two conversions is handed on. -/
theorem FailsToCompile.of_sequel {a : World φ σ × Except Failure α}
    {next : World φ σ → α → World φ σ × Except Failure β}
    (h : FailsToCompile (sequel a next).2) :
    FailsToCompile a.2 ∨ ∃ w x, FailsToCompile (next w x).2 := by
  obtain ⟨w, e | x⟩ := a
  · exact .inl (FailsToCompile.cast h)
  · exact .inr ⟨w, x, h⟩

/-- Whatever the host answers, what a run returns has a property. -/
inductive Script.Run.Gives (P : α → Prop) : Run α → Prop
  | finished {h : Heap} {o : Outcome α} : (∀ a, o = .returned a → P a) → Gives P (.finished h o)
  | host {h : Heap} {call : Script.HostCall} {resume : Heap → Script.Reply → Run α} :
      (∀ h reply, Gives P (resume h reply)) → Gives P (.host h call resume)

theorem Script.Run.Gives.drive {P : α → Prop} {x : Run α} (hx : x.Gives P)
    (d : Dispatcher φ σ) (context : RealmRef) (w : World φ σ) :
    ∀ a, (drive d context x w).2 = .returned a → P a := by
  induction hx generalizing w with
  | finished h => exact h
  | host _ ih => exact ih _ _ _

theorem Script.Run.Gives.bind {P : β → Prop} {next : α → Action β}
    (hnext : ∀ a h, (next a h).Gives P) (x : Action α) (h : Heap) : ((x >>= next) h).Gives P := by
  change ((x h).andThen _).Gives P
  induction x h with
  | finished h o =>
      cases o with
      | returned a => exact hnext a h
      | thrown v => exact .finished nofun
      | suspended => exact .finished nofun
  | host h call resume ih => exact .host ih

section Machine

variable [Machine]

omit [Machine] in
theorem textOfReplaced_kind (h : Heap) (v : Val) : ¬FailsToCompile (textOfReplaced h v) := by
  cases v with
  | string s =>
      simp only [textOfReplaced]
      cases s.toString? with
      | some t => exact FailsToCompile.not_ok
      | none => exact FailsToCompile.not_error (by rintro t ⟨⟩)
  | _ => exact FailsToCompile.not_error (by rintro t ⟨⟩)

/-- To make a string well formed is to run a source, and still what comes of it is no compile
error. -/
theorem makeWellFormed_kind (stack : Script.Stack) (s : Units) (h : Heap) :
    (makeWellFormed stack s h).Gives fun result => ¬FailsToCompile result := by
  refine .bind (fun f h => .bind (fun callable h => ?_) _ h) _ h
  split
  · refine .bind (fun v h => .finished fun result hresult => ?_) _ h
    cases hresult
    exact textOfReplaced_kind h v
  · refine .finished fun result hresult => ?_
    cases hresult
    exact FailsToCompile.not_error (by rintro t ⟨⟩)

namespace Crossing

variable (c : Crossing φ σ)

theorem assign_kind (target : ObjectRef) (name : String) (v : Val) (w : World φ σ) :
    ¬FailsToCompile (c.assign target name v w).2 := by
  unfold assign
  generalize c.run _ w = a
  obtain ⟨w', o⟩ := a
  cases o with
  | returned x => exact FailsToCompile.not_ok
  | thrown v => exact FailsToCompile.not_error (by rintro t ⟨⟩)
  | suspended => exact FailsToCompile.not_error (by rintro t ⟨⟩)

omit [Machine] in
theorem restore_kind (f : FunctionRef) (w : World φ σ) :
    ¬FailsToCompile (c.restore f w).2 := by
  unfold restore
  cases f with
  | «foreign» backend => exact FailsToCompile.not_ok
  | captured origin object =>
      dsimp only
      split
      · dsimp only
        split
        · exact FailsToCompile.not_ok
        · exact FailsToCompile.not_error (by rintro t ⟨⟩)
      · exact FailsToCompile.not_ok

theorem allocate_kind (bytes : Nat) (o : Object) (w : World φ σ) :
    ¬FailsToCompile (c.allocate bytes o w).2 := by
  unfold allocate
  split
  · exact FailsToCompile.not_ok
  · exact FailsToCompile.not_error (by rintro t ⟨⟩)

theorem text_kind (s : Units) (w : World φ σ) : ¬FailsToCompile (c.text s w).2 := by
  unfold text
  cases s.toString? with
  | some t => exact FailsToCompile.not_ok
  | none =>
      have hgives := (makeWellFormed_kind c.stack s (w.heap c.context)).drive c.dispatch c.context w
      dsimp only [run]
      generalize drive c.dispatch c.context _ w = a at hgives ⊢
      obtain ⟨w', o⟩ := a
      cases o with
      | returned t => exact hgives t rfl
      | thrown v => exact FailsToCompile.not_error (by rintro t ⟨⟩)
      | suspended => exact FailsToCompile.not_error (by rintro t ⟨⟩)

theorem toValue_kind (v : Val) (w : World φ σ) : ¬FailsToCompile (c.toValue v w).2 := by
  cases v with
  | string s =>
      have htext := c.text_kind s w
      unfold toValue
      dsimp only
      generalize c.text s w = a at htext ⊢
      obtain ⟨w', e | t⟩ := a
      · exact fun h => htext h.cast
      · exact FailsToCompile.not_ok
  | object r =>
      unfold toValue
      dsimp only
      split <;> exact FailsToCompile.not_ok
  | _ => exact FailsToCompile.not_ok

end Crossing

mutual
/-- A value that cannot go in is no compile error. -/
theorem Value.extract_kind (c : Crossing φ σ) (v : Value φ) (w : World φ σ) :
    ¬FailsToCompile (v.extract c w).2 := by
  cases v with
  | function id f => exact c.restore_kind f w
  | object id exports =>
      rw [extract_object]
      intro h
      rcases h.of_sequel with h | ⟨w', target, h⟩
      · exact c.allocate_kind _ _ _ h
      rcases h.of_sequel with h | ⟨w'', x, h⟩
      · exact exports.install_kind c _ _ h
      · exact FailsToCompile.not_ok h
  | string id s =>
      unfold Value.extract
      split
      · exact FailsToCompile.not_ok
      · exact FailsToCompile.not_error (by rintro t ⟨⟩)
  | _ => exact FailsToCompile.not_ok

theorem Namespace.install_kind (c : Crossing φ σ) (n : Namespace φ) (target : ObjectRef)
    (w : World φ σ) : ¬FailsToCompile (n.install c target w).2 := by
  cases n with
  | empty => exact FailsToCompile.not_ok
  | entry name item rest =>
      rw [install_entry]
      intro h
      rcases h.of_sequel with h | ⟨w', v, h⟩
      · exact item.realise_kind c name w h
      rcases h.of_sequel with h | ⟨w'', x, h⟩
      · exact c.assign_kind target name v w' h
      · exact rest.install_kind c target w'' h

theorem Export.realise_kind (c : Crossing φ σ) (name : String) (item : Export φ)
    (w : World φ σ) : ¬FailsToCompile (item.realise c name w).2 := by
  cases item with
  | value v => exact v.extract_kind c w
  | callback f =>
      rw [realise_callback]
      intro h
      rcases h.of_sequel with h | ⟨w', o, h⟩
      · exact c.allocate_kind _ _ _ h
      · exact FailsToCompile.not_ok h
  | nested exports =>
      rw [realise_nested c name 0, extract_object]
      intro h
      rcases h.of_sequel with h | ⟨w', target, h⟩
      · exact c.allocate_kind _ _ _ h
      rcases h.of_sequel with h | ⟨w'', x, h⟩
      · exact exports.install_kind c _ _ h
      · exact FailsToCompile.not_ok h
end

/-- Nor are arguments that cannot. -/
theorem Crossing.extractAll_kind (c : Crossing φ σ) (vs : List (Value φ)) (w : World φ σ) :
    ¬FailsToCompile (c.extractAll vs w).2 := by
  induction vs generalizing w with
  | nil => exact FailsToCompile.not_ok
  | cons v vs ih =>
      have hfirst := v.extract_kind c w
      unfold Crossing.extractAll
      generalize v.extract c w = a at hfirst ⊢
      obtain ⟨w₁, e | x⟩ := a
      · exact fun h => hfirst h.cast
      · have hrest := ih w₁
        dsimp only
        generalize c.extractAll vs w₁ = b at hrest ⊢
        obtain ⟨w₂, e | xs⟩ := b
        · exact fun h => hrest h.cast
        · exact FailsToCompile.not_ok

/-- Nor does making a realm give one, which runs no source. -/
theorem createRealm_kind (d : Dispatcher φ σ) (left : Script.Stack) (config : EngineConfig)
    (n : Namespace φ) (w : World φ σ) : ¬FailsToCompile (createRealm d left config n w).2 := by
  unfold createRealm
  split
  · dsimp only
    generalize (w.addRealm _ _ _) = a
    obtain ⟨r, w₁⟩ := a
    have hin : ¬FailsToCompile (w₁.withContext r left fun context stack w' =>
        n.install ⟨d, context, r, stack⟩ Script.Place.global w').2 := by
      unfold World.withContext
      cases w₁.context? r with
      | some context => exact n.install_kind _ _ _
      | none =>
          dsimp only
          split
          · exact n.install_kind _ _ _
          · exact FailsToCompile.not_error (by rintro t ⟨⟩)
    dsimp only
    generalize w₁.withContext r left _ = b at hin ⊢
    obtain ⟨w₂, e | u⟩ := b
    · exact fun h => hin h.cast
    · exact FailsToCompile.not_ok
  · exact FailsToCompile.not_error (by rintro t ⟨⟩)

/-! ## Errors that are compile errors -/

/-- Code ends by throwing an error object whose name reads as a string. -/
def Crossing.ThrowsNamed (c : Crossing φ σ) (x : Script.Action Val) (w : World φ σ)
    (name : String) : Prop :=
  ∃ w' e, c.run x w = (w', .thrown (.object e)) ∧
    ((w'.heap c.context).object e).isError = true ∧
    (c.run (Script.getProperty c.evaluator (.object e) (key "name")) w').2 =
      .returned (.string (Script.text name))

omit [Machine] in
theorem Units.toString?_eq_some {s : Units} {t : String} :
    s.toString? = some t ↔ s = Units.ofString t := by
  refine ⟨fun h => ?_, fun h => h ▸ Units.toString?_ofString t⟩
  obtain ⟨cs, hcs, rfl⟩ := Option.map_eq_some_iff.mp h
  rw [Units.ofString, String.toList_ofList]
  exact (Units.encode_of_decode hcs).symm

omit [Machine] in
/-- An error has the name of a syntax error only if it reads so. -/
theorem nameOf_eq_rejectedName {o : Outcome Val} :
    nameOf o.returned? = rejectedName ↔ o = .returned (.string (text "SyntaxError")) := by
  have hdefault : defaultErrorName ≠ rejectedName := by decide
  have hname : rejectedName = "SyntaxError" := rfl
  cases o with
  | returned v =>
      cases v with
      | string s =>
          rw [Outcome.returned.injEq, Val.string.injEq, text, ← Units.toString?_eq_some, ← hname]
          change s.toString?.getD defaultErrorName = rejectedName ↔ _
          cases s.toString? with
          | none => exact iff_of_false hdefault nofun
          | some t => exact (Option.some_inj (a := t)).symm
      | _ => exact iff_of_false hdefault nofun
  | thrown v => exact iff_of_false hdefault nofun
  | suspended => exact iff_of_false hdefault nofun

omit [Machine] in
theorem Report.failure_error_iff {name message : String} {stack : Option String} :
    (∃ t, (Report.error name message stack).failure = .script (.compile t)) ↔
      name = rejectedName := by
  refine ⟨fun ⟨t, ht⟩ => ?_, fun h => ⟨_, congrArg Failure.script (if_pos h)⟩⟩
  by_contra h
  have hother : (Report.error name message stack).failure = .script (.exception _) :=
    congrArg Failure.script (if_neg h)
  rw [hother] at ht
  cases ht

omit [Machine] in
/-- What is no error is shown as it is. -/
theorem reportOf_value (ev : Script.Evaluator) {h : Heap} {v : Val}
    (hv : ∀ e, v = .object e → (h.object e).isError = false) :
    reportOf ev v h = .finished h (.returned (.value (shownValue h v))) := by
  unfold reportOf
  refine (Action.bind_finished (rfl : Action.read _ _ = _)).trans ?_
  split
  · rename_i herror
    cases v with
    | object e => exact absurd herror (Bool.eq_false_iff.mp (hv e rfl))
    | _ => cases herror
  · rfl

/-- It never counts as a compile error. -/
theorem Crossing.report_value {c : Crossing φ σ} {v : Val} {w : World φ σ}
    (hv : ∀ e, v = .object e → ((w.heap c.context).object e).isError = false) :
    ∃ shown, (c.report v w).2 = (Report.value shown).failure := by
  refine ⟨shownValue (w.heap c.context) v, ?_⟩
  rw [Crossing.report, Crossing.run, reportOf_value c.evaluator hv]
  rfl

/-- The host is told of a compile error when what was thrown says so by its name. -/
theorem Crossing.conclude_run_kind {c : Crossing φ σ}
    (hd : ∀ context call (w : World φ σ), Grows w (c.dispatch context call w).1)
    {w : World φ σ} (hr : c.context < w.realms.size) (x : Script.Action Val) :
    FailsToCompile (c.conclude (c.run x w).2 (c.run x w).1).2 ↔
      c.ThrowsNamed x w "SyntaxError" := by
  have hgrows := ((Comparison.self Grows.frame hd).run x (w := w) ⟨⟩).bound
  unfold Crossing.ThrowsNamed
  generalize c.run x w = a at hgrows ⊢
  obtain ⟨w', o⟩ := a
  cases o with
  | returned v =>
      refine iff_of_false (c.toValue_kind v w') ?_
      rintro ⟨w₁, e, h, -⟩
      cases h
  | suspended =>
      refine iff_of_false FailsToCompile.not_ok ?_
      rintro ⟨w₁, e, h, -⟩
      cases h
  | thrown v =>
      have hconclude : FailsToCompile (c.conclude (.thrown v) w').2 ↔
          ∃ t, (c.report v w').2 = .script (.compile t) := FailsToCompile.error_iff
      rw [hconclude]
      -- Only errors are reported under a name; anything else that is thrown is shown.
      by_cases hv : ∃ e, v = .object e ∧ ((w'.heap c.context).object e).isError = true
      · obtain ⟨e, rfl, herror⟩ := hv
        obtain ⟨message, stack, hreport⟩ :=
          Crossing.report_error hd (Nat.lt_of_lt_of_le hr hgrows.size_le) herror
        rw [hreport, Report.failure_error_iff, nameOf_eq_rejectedName]
        refine ⟨fun hname => ⟨w', e, rfl, herror, hname⟩, ?_⟩
        rintro ⟨w₁, e', h, -, hname⟩
        cases h
        exact hname
      · obtain ⟨shown, hreport⟩ := c.report_value (v := v) (w := w') fun e he =>
          Bool.eq_false_iff.mpr fun herror => hv ⟨e, he, herror⟩
        rw [hreport]
        refine iff_of_false (by rintro ⟨t, h⟩; cases h) ?_
        rintro ⟨w₁, e, h, herror, -⟩
        cases h
        exact hv ⟨e, rfl, herror⟩

/-! ## Sources that are refused -/

namespace Script.Refusal

/-- A new error of a type, with a message and, if it is given, a stack trace. -/
def errorObject (t : Script.ErrorType) (message : String) (stack : Option String) : Object :=
  .make .error (some (Script.Place.errorPrototype t))
    (Script.errorProperties (some (text message)) (stack.map text))

omit [Machine] in
/-- What the error has of its own. -/
theorem own?_errorObject (t : Script.ErrorType) (message : String) (stack : Option String)
    (name : String) :
    (errorObject t message stack).own? (key name) =
      if key name = key "message" then some (.hidden (.string (text message)))
      else if key name = key "stack" then stack.map fun s => .hidden (.string (text s))
      else none := by
  have hrow : (errorObject t message stack).element? (key name) = none := by
    unfold Object.element?
    cases (key name).index? <;> rfl
  have hne : key "message" ≠ key "stack" := Script.key_ne (by decide)
  rw [Object.own?, hrow]
  cases stack with
  | none => simp [errorObject, Object.make, Script.errorProperties, Script.findKey?, eq_comm]
  | some s =>
      by_cases hmessage : key name = key "message"
      · simp [errorObject, Object.make, Script.errorProperties, Script.findKey?, hmessage,
          hne.symm]
      · simp [errorObject, Object.make, Script.errorProperties, Script.findKey?, hmessage,
          Ne.symm hmessage, eq_comm]

/-- The error that is made for a source that cannot be read. -/
def error? : Refusal → Option Object
  | .error t message stack => some (errorObject t message stack)
  | .bare => none

/-- What is left behind of the source: one error at most. -/
def leaves (why : Refusal) (h : Heap) : Heap :=
  match why.error? with
  | some o => (h.allocate o).2
  | none => h

/-- What is thrown. -/
def thrown (why : Refusal) (h : Heap) : Val :=
  match why.error? with
  | some _ => .object h.size
  | none => .null

/-- What is reported. -/
def report : Refusal → Report
  | .error t message stack => .error t.name message stack
  | .bare => .value (shownValue .standard .null)

/-- What the host is told of it. -/
def failure (why : Refusal) : Failure := why.report.failure

/-- A syntax error is thrown. -/
def IsSyntax : Refusal → Prop
  | .error t _ _ => t = .parse
  | .bare => False

omit [Machine] in
/-- Only a syntax error counts as a compile error. -/
theorem failure_compile_iff (why : Refusal) :
    (∃ t, why.failure = .script (.compile t)) ↔ why.IsSyntax := by
  cases why with
  | error t message stack =>
      rw [failure, report, Report.failure_error_iff]
      cases t with
      | parse => exact iff_of_true rfl rfl
      | _ => exact iff_of_false (by decide) nofun
  | bare => exact iff_of_false (by rintro ⟨t, h⟩; cases h) id

omit [Machine] in
theorem raise_eq (why : Refusal) (h : Heap) :
    why.raise h = .finished (why.leaves h) (.thrown (why.thrown h)) := by
  cases why <;> rfl

end Script.Refusal

/-- A key is nowhere on an object or on the ones behind it, each of which is the prototype of
the one before. -/
def Script.Heap.Lacks (h : Heap) (k : Script.Key) : ObjectRef → List ObjectRef → Prop
  | r, [] => (h.object r).own? k = none ∧ (h.object r).prototype = none
  | r, q :: rest =>
    (h.object r).own? k = none ∧ (h.object r).prototype = some q ∧ h.Lacks k q rest

instance Script.Heap.decidableLacks (h : Heap) (k : Script.Key) (r : ObjectRef) :
    (behind : List ObjectRef) → Decidable (h.Lacks k r behind)
  | [] => inferInstanceAs (Decidable (_ ∧ _))
  | q :: rest =>
    have := decidableLacks h k q rest
    inferInstanceAs (Decidable (_ ∧ _ ∧ _))

omit [Machine] in
theorem Script.Heap.Lacks.findProperty?_eq_none {h : Heap} {k : Script.Key} {r : ObjectRef}
    {behind : List ObjectRef} (hlacks : h.Lacks k r behind) : h.findProperty? r k = none := by
  unfold Heap.findProperty?
  generalize h.objects.size = fuel
  induction fuel generalizing r behind with
  | zero => rfl
  | succ fuel ih =>
      cases behind with
      | nil => simp only [Heap.findProperty?.go, hlacks.1, hlacks.2]
      | cons q rest => simp only [Heap.findProperty?.go, hlacks.1, hlacks.2.1, ih hlacks.2.2]

omit [Machine] in
theorem Script.Heap.Lacks.of_object_eq {h h' : Heap} {k : Script.Key} {r : ObjectRef}
    {behind : List ObjectRef} (hlacks : h.Lacks k r behind)
    (hsame : ∀ o ∈ r :: behind, h'.object o = h.object o) : h'.Lacks k r behind := by
  induction behind generalizing r with
  | nil => rwa [Heap.Lacks, hsame r List.mem_cons_self]
  | cons q rest ih =>
      rw [Heap.Lacks, hsame r List.mem_cons_self]
      exact ⟨hlacks.1, hlacks.2.1, ih hlacks.2.2 fun o ho => hsame o (List.mem_cons_of_mem r ho)⟩

/-- The prototypes of the prototype of errors of a type. -/
def Script.Place.behindError : Script.ErrorType → List ObjectRef
  | .error => [Script.Place.objectPrototype]
  | _ => [Script.Place.errorPrototype .error, Script.Place.objectPrototype]

/-- The prototypes of errors have the names that errors are made with, and there is nothing
that an error without a stack trace would inherit one from. -/
structure Script.Heap.ErrorsNamed (h : Heap) : Prop where
  name (t : Script.ErrorType) : (h.object (Script.Place.errorPrototype t)).own? (key "name") =
    some (.hidden (.string (text t.name)))
  traceless (t : Script.ErrorType) :
    h.Lacks (key "stack") (Script.Place.errorPrototype t) (Script.Place.behindError t)
  made (t : Script.ErrorType) :
    ∀ o ∈ Script.Place.errorPrototype t :: Script.Place.behindError t, o < h.size

omit [Machine] in
/-- While they do, the error of a refused source is reported by them. -/
theorem reportOf_refused {h : Heap} (hnames : h.ErrorsNamed) (why : Refusal)
    (ev : Script.Evaluator) :
    reportOf ev (why.thrown h) (why.leaves h) =
      .finished (why.leaves h) (.returned why.report) := by
  cases why with
  | bare =>
      have hshown : shownValue h .null = shownValue .standard .null := by simp only [shownValue]
      have hreport : reportOf ev .null h = _ := reportOf_value ev (by simp)
      rw [hshown] at hreport
      exact hreport
  | error t message stack =>
      let e : Object := Refusal.errorObject t message stack
      have hnew : (h.allocate e).2.object h.size = e := h.object_allocate_self _
      have hmessage_ne : key "name" ≠ key "message" := Script.key_ne (by decide)
      have hstack_ne : key "stack" ≠ key "message" := Script.key_ne (by decide)
      have hname_ne : key "name" ≠ key "stack" := Script.key_ne (by decide)
      have hold (o : ObjectRef)
          (ho : o ∈ Script.Place.errorPrototype t :: Script.Place.behindError t) :
          (h.allocate e).2.object o = h.object o :=
        h.object_allocate_of_lt _ (hnames.made t o ho)
      have hname : (h.allocate e).2.HasString h.size "name" (text t.name) :=
        ⟨_, _, _, _, Heap.findProperty?_inherited (by rw [hnew]; rfl)
          (by rw [hnew, Refusal.own?_errorObject, if_neg hmessage_ne, if_neg hname_ne])
          (by rw [hold _ List.mem_cons_self]; exact hnames.name t) (by cases t <;> decide)⟩
      have hmessage : (h.allocate e).2.HasString h.size "message" (text message) :=
        ⟨_, _, _, _,
          Heap.findProperty?_own (by rw [hnew, Refusal.own?_errorObject, if_pos rfl]; rfl)⟩
      have hstack : tryTextOf ev (.object h.size) "stack" (h.allocate e).2 =
          .finished (h.allocate e).2 (.returned stack) := by
        have hown : e.own? (key "stack") = stack.map fun s => .hidden (.string (text s)) := by
          rw [Refusal.own?_errorObject, if_neg hstack_ne, if_pos rfl]
        cases stack with
        | some s =>
            have hs : (h.allocate e).2.HasString h.size "stack" (text s) :=
              ⟨_, _, _, _, Heap.findProperty?_own (by rw [hnew, hown]; rfl)⟩
            rw [hs.tryTextOf, text, Units.toString?_ofString]
        | none =>
            have hlacks : (h.allocate e).2.Lacks (key "stack") h.size
                (Script.Place.errorPrototype t :: Script.Place.behindError t) :=
              ⟨by rw [hnew, hown]; rfl, by rw [hnew]; rfl, (hnames.traceless t).of_object_eq hold⟩
            simp only [tryTextOf, tryProperty, Script.getProperty, Script.prototypeOf?, bind,
              Action.bind, Action.outcome, Action.read, Run.andThen_finished,
              hlacks.findProperty?_eq_none]
            rfl
      change reportOf ev (.object h.size) (h.allocate e).2 = _
      rw [reportOf_strings (by rw [hnew]; rfl) hname hmessage]
      refine (Action.bind_finished hstack).trans ?_
      simp only [text, Units.toString?_ofString]
      rfl

/-- Running a source that is refused makes one object at most, asks the host nothing, and runs
nothing. -/
theorem Crossing.runSource_refused (c : Crossing φ σ) {source : String} {why : Refusal}
    {w : World φ σ} (hr : c.context < w.realms.size) (hnul : nulPosition? source = none)
    (hload : Machine.load c.stack source (w.heap c.context) = .error why)
    (hnames : (w.heap c.context).ErrorsNamed) :
    c.runSource source w =
      (w.setHeap c.context (why.leaves (w.heap c.context)), .error why.failure) := by
  have hrun : c.run (Machine.runSource c.stack source) w =
      (w.setHeap c.context (why.leaves (w.heap c.context)),
        .thrown (why.thrown (w.heap c.context))) := by
    rw [Crossing.run, Machine.runSource, hload]
    dsimp only
    rw [why.raise_eq]
    rfl
  have hreport : c.run (reportOf c.evaluator (why.thrown (w.heap c.context)))
      (w.setHeap c.context (why.leaves (w.heap c.context))) =
      (w.setHeap c.context (why.leaves (w.heap c.context)), .returned why.report) := by
    rw [Crossing.run, w.heap_setHeap_self hr, reportOf_refused hnames]
    exact congrArg (·, _) (w.setHeap_setHeap _ _ _)
  rw [Crossing.runSource, hnul]
  dsimp only
  rw [hrun]
  dsimp only [Crossing.conclude]
  rw [Crossing.report, hreport]
  rfl

/-! ## The realm of a run -/

/-- A realm that was made has never been at work, and its errors have their names. -/
structure World.Unused (w : World φ σ) (r : RealmRef) (config : EngineConfig) : Prop where
  made : r < w.realms.size
  idle : w.context? r = none
  isScript : (w.realm r).isScript = true
  stack : (w.realm r).stack = Machine.stack config.runtime
  named : (w.heap r).ErrorsNamed

section NewRealm

variable {w : World φ σ} {config : EngineConfig}

omit [Machine] in
private theorem standard_errorsNamed : Heap.standard.ErrorsNamed := by
  have hall : ∀ t ∈ Script.ErrorType.all,
      (Heap.standard.object (Script.Place.errorPrototype t)).own? (key "name") =
        some (.hidden (.string (text t.name))) ∧
      Heap.standard.Lacks (key "stack") (Script.Place.errorPrototype t)
        (Script.Place.behindError t) ∧
      ∀ o ∈ Script.Place.errorPrototype t :: Script.Place.behindError t,
        o < Heap.standard.size := by
    decide +kernel
  have hmem (t : Script.ErrorType) : t ∈ Script.ErrorType.all := by cases t <;> decide
  exact ⟨fun t => (hall t (hmem t)).1, fun t => (hall t (hmem t)).2.1,
    fun t => (hall t (hmem t)).2.2⟩

omit [Machine] in
private theorem ne_global_of_mem_behindError {t : Script.ErrorType} {o : ObjectRef}
    (ho : o ∈ Script.Place.errorPrototype t :: Script.Place.behindError t) :
    o ≠ Script.Place.global := by
  rintro rfl
  revert ho
  cases t <;> decide

/-- A realm that is made is unused, and how host calls would be answered does not matter. -/
theorem createRealm_unused [LawfulMachine] {d : Dispatcher φ σ} {left : Script.Stack}
    {n : Namespace φ} {w₁ : World φ σ}
    {r : RealmRef} (hn : w.Numbered) (hlive : ∀ s ∈ w.live, s < w.realms.size)
    (hfew : w.realms.size + 1 < 2 ^ 32) (hmade : createRealm d left config n w = (w₁, .ok r)) :
    w₁.Unused r config ∧
      ∀ d' : Dispatcher φ σ, createRealm d' left config n w = (w₁, .ok r) := by
  have hsuffice := suffice_of_createRealm (congrArg Prod.snd hmade)
  have heq (d : Dispatcher φ σ) := createRealm_eq d left n hn hlive hfew hsuffice
  have hscript : ((w.opening config).realm w.realms.size).isScript = true := by
    rw [realm_opening]
    rfl
  have hroom : ((w.opening config).realm w.realms.size).stack = Machine.stack config.runtime := by
    rw [realm_opening]
  have hheap : (w.opening config).heap w.realms.size =
      { Heap.standard with memory := config.runtime.memory.map UInt64.toNat } := heap_opening
  have hsite : Site Ground.untouched w.realms.size (w.opening config) := site_opening hn hfew
  have hbuilds := builds_opening config n hn hfew
  refine ⟨?_, fun d' => ?_⟩
  · -- The engine that is left in the end is the one that was entered for the exports.
    have hstack : SameLive (w.opening config) (n.install ⟨refusing, w.realms.size, w.realms.size,
        (Machine.stack config.runtime)⟩ Script.Place.global (w.opening config)).1 :=
      ((Comparison.self SameLive.frame fun _ _ w => SameLive.frame.refl (w := w)).install
        (c := ⟨refusing, w.realms.size, w.realms.size, Machine.stack config.runtime⟩) n _
          trivial).bound
    have hlays := hbuilds.lays refusing
    rw [heq, hbuilds.same d refusing] at hmade
    generalize n.install _ _ _ = a at hstack hlays hmade
    obtain ⟨w', e | u⟩ := a
    · cases hmade
    · obtain ⟨rfl, hr⟩ := Prod.mk.inj hmade
      cases hr
      have hr : w.realms.size < w'.realms.size := hlays.size_eq ▸ hsite.made
      have htail : w'.live.tail = w.live := congrArg List.tail hstack
      have hnumbered' := hlays.grows.numbered hsite.numbered
      refine ⟨hr, ?_, ?_, ?_, ?_⟩
      · refine World.Numbered.context?_eq_none ⟨hnumbered'.next, hnumbered'.id⟩
          (hlays.size_eq ▸ hsite.few) hr fun s hs => ?_
        exact hlive s (htail ▸ hs)
      · exact hlays.grows.isScript _ hscript
      · exact (hlays.grows.stack_eq _ hsite.made).trans hroom
      · -- The exports went onto the global object, and no prototype of errors is that.
        have hsize : ((w.opening config).heap w.realms.size).size = Heap.standard.size := by
          rw [hheap, Heap.size_withMemory]
        have hsame (t : Script.ErrorType) (o : ObjectRef)
            (ho : o ∈ Script.Place.errorPrototype t :: Script.Place.behindError t) :
            (w'.heap w.realms.size).object o = Heap.standard.object o := by
          have hold := standard_errorsNamed.made t o ho
          rw [hlays.same o (Nat.lt_of_lt_of_eq hold hsize.symm) (ne_global_of_mem_behindError ho),
            hheap, Heap.object_withMemory]
        refine ⟨fun t => ?_, fun t => ?_, fun t o ho => ?_⟩
        · exact (congrArg (·.own? (key "name")) (hsame t _ List.mem_cons_self)).trans
            (standard_errorsNamed.name t)
        · exact (standard_errorsNamed.traceless t).of_object_eq (hsame t)
        · exact Nat.lt_of_lt_of_le (standard_errorsNamed.made t o ho)
            ((Nat.le_of_eq hsize.symm).trans hlays.later.size_le)
  · rw [← hmade, heq, heq, hbuilds.same d' d]

end NewRealm

section Exports

variable [LawfulMachine] (host : Host φ γ σ) {d : Dispatcher φ σ}

/-- What a generator does before a run takes nothing away. -/
theorem Engine.exports_grows (hd : ∀ context call (w : World φ σ), Grows w (d context call w).1)
    (left : Script.Stack) (engine : Engine γ) (w : World φ σ) :
    Grows w (engine.exports host d left w).1 := by
  have C := Comparison.self Grows.frame hd
  have hs := C.servicesWithin .trivial host.settled_grows left Machine.nesting
  exact (C.generateExports host.settled_grows hs engine.generator trivial).bound

/-- What a generator does before a run leaves the engines that were entered. -/
theorem Engine.exports_sameLive (n : Nat) (left : Script.Stack) (engine : Engine γ)
    (w : World φ σ) : SameLive w (engine.exports host (dispatcher host n) left w).1 := by
  have hd : ∀ context call (w : World φ σ), SameLive w (dispatcher host n context call w).1 :=
    dispatcher_sameLive n
  have C := Comparison.self SameLive.frame hd
  have hs := C.servicesWithin .trivial host.settled_sameLive left Machine.nesting
  exact (C.generateExports host.settled_sameLive hs engine.generator trivial).bound

end Exports

/-! ## Runs and calls -/

/-- A run on an engine gets as far as its source: its realm is made, which leaves this world,
and there is no NUL in the source. -/
structure RunsSource (host : Host φ γ σ) (d : Dispatcher φ σ) (left : Script.Stack)
    (engine : Engine γ)
    (source : String) (w : World φ σ) (r : RealmRef) (w₁ : World φ σ) : Prop where
  made : createRealm d left engine.config (engine.exports host d left w).2
    (engine.exports host d left w).1 = (w₁, .ok r)
  noNul : nulPosition? source = none

/-- It is recorded that a source runs in a realm. -/
def World.recordRun (w : World φ σ) (r : RealmRef) (source : String) : World φ σ :=
  w.record (.running source.utf8ByteSize (w.idOf r) w.depth)

/-- The world in which a source starts in a realm that was idle. -/
def World.starting (w : World φ σ) (r : RealmRef) (source : String) : World φ σ :=
  { ((w.recordRun r source).enter r).2 with live := r :: w.live }

/-- A call of a function of a realm gets as far as the function, with these arguments, in this
world, and on this stack. -/
inductive CallsFunction (d : Dispatcher φ σ) (left : Script.Stack) (r : RealmRef)
    (arguments : List (Value φ)) (w : World φ σ) : Script.Stack → List Val → World φ σ → Prop
  | intro {stack : Script.Stack} {vs : List Val} {w₁ w₂ : World φ σ} :
      InContext ((w.record (.calling (w.idOf r) arguments.length)).enter r).2 r left r stack w₁ →
      Crossing.extractAll ⟨d, r, r, stack⟩ arguments w₁ = (w₂, .ok vs) →
      CallsFunction d left r arguments w stack vs w₂

/-- A source is read or not, and then run or not. -/
theorem Crossing.runSource_kind {c : Crossing φ σ}
    (hd : ∀ context call (w : World φ σ), Grows w (c.dispatch context call w).1)
    {source : String} {w : World φ σ} (hr : c.context < w.realms.size)
    (hnul : nulPosition? source = none) (hnames : (w.heap c.context).ErrorsNamed) :
    FailsToCompile (c.runSource source w).2 ↔
      (∃ why, Machine.load c.stack source (w.heap c.context) = .error why ∧ why.IsSyntax) ∨
        ∃ program, Machine.load c.stack source (w.heap c.context) = .ok program ∧
          c.ThrowsNamed program w "SyntaxError" := by
  cases hload : Machine.load c.stack source (w.heap c.context) with
  | error why =>
      rw [c.runSource_refused hr hnul hload hnames, FailsToCompile.error_iff,
        why.failure_compile_iff]
      refine ⟨fun h => .inl ⟨why, rfl, h⟩, ?_⟩
      rintro (⟨why', heq, h⟩ | ⟨program, heq, -⟩)
      · cases heq
        exact h
      · cases heq
  | ok program =>
      have hrun : c.run (Machine.runSource c.stack source) w = c.run program w := by
        rw [Crossing.run, Crossing.run, Machine.runSource, hload]
      have hresult : (c.runSource source w).2 =
          (c.conclude (c.run program w).2 (c.run program w).1).2 := by
        rw [Crossing.runSource, hnul, ← hrun]
      rw [hresult, conclude_run_kind hd hr]
      refine ⟨fun h => .inr ⟨program, rfl, h⟩, ?_⟩
      rintro (⟨why, heq, -⟩ | ⟨program', heq, h⟩)
      · cases heq
      · cases heq
        exact h

section Fresh

variable {host : Host φ γ σ} {left : Script.Stack} {engine : Engine γ} {config : EngineConfig}
variable {n : Namespace φ} {source : String} {w w₁ : World φ σ} {r : RealmRef}

/-- A run in an unused realm enters its engine, and leaves everything in the end. -/
theorem runExports_eq {d : Dispatcher φ σ} (hmade : createRealm d left config n w = (w₁, .ok r))
    (hunused : w₁.Unused r config) :
    runExports d left config n source w =
      ((leaveEngine (Crossing.runSource ⟨d, r, r, Machine.stack config.runtime⟩ source
          (w₁.starting r source))).1.leave ⟨w₁.depth⟩,
        (Crossing.runSource ⟨d, r, r, Machine.stack config.runtime⟩ source
          (w₁.starting r source)).2) := by
  have hidle : ((w₁.recordRun r source).enter r).2.context? r = none := hunused.idle
  have hexecute := World.withContext_idle hidle hunused.isScript left fun context stack w' =>
    Crossing.runSource ⟨d, context, r, stack⟩ source w'
  rw [show (((w₁.recordRun r source).enter r).2.realm r).stack = _ from hunused.stack] at hexecute
  unfold runExports
  rw [hmade]
  exact congrArg (fun a => (World.leave a.1 ⟨w₁.depth⟩, a.2)) hexecute

/-- A run whose source is refused makes the realm, and an error in it if there is one.  The host
is called in no way. -/
theorem runExports_refused {d : Dispatcher φ σ} {why : Refusal}
    (hmade : createRealm d left config n w = (w₁, .ok r)) (hnul : nulPosition? source = none)
    (hunused : w₁.Unused r config)
    (hload : Machine.load (Machine.stack config.runtime) source (w₁.heap r) = .error why) :
    runExports d left config n source w =
      ((w₁.recordRun r source).setHeap r (why.leaves (w₁.heap r)), .error why.failure) := by
  have hsource := Crossing.runSource_refused ⟨d, r, r, Machine.stack config.runtime⟩
    (w := w₁.starting r source) hunused.made hnul hload hunused.named
  have hstack : World.bottom w₁.active.length (r :: w₁.active) = w₁.active := by
    rw [World.bottom, List.length_cons, Nat.add_sub_cancel_left]
    rfl
  rw [runExports_eq hmade hunused, hsource]
  exact congrArg (fun active => (({ (w₁.recordRun r source).setHeap r
    (why.leaves (w₁.heap r)) with active := active } : World φ σ),
      Except.error why.failure)) hstack

/-- What comes of a run is decided by whether its source can be read, and if it can, by how
the script ends. -/
theorem runEngine_kind {d : Dispatcher φ σ}
    (hd : ∀ context call (w : World φ σ), Grows w (d context call w).1)
    (hunused : ∀ r w₁, createRealm d left engine.config (engine.exports host d left w).2
      (engine.exports host d left w).1 = (w₁, .ok r) → w₁.Unused r engine.config) :
    FailsToCompile (runEngine host d left engine source w).2 ↔
      ∃ r w₁, RunsSource host d left engine source w r w₁ ∧
        ((∃ why, Machine.load (Machine.stack engine.config.runtime) source (w₁.heap r) =
            .error why ∧ why.IsSyntax) ∨
          ∃ program, Machine.load (Machine.stack engine.config.runtime) source (w₁.heap r) =
              .ok program ∧
            Crossing.ThrowsNamed ⟨d, r, r, Machine.stack engine.config.runtime⟩ program
              (w₁.starting r source) "SyntaxError") := by
  cases hmade : createRealm d left engine.config (engine.exports host d left w).2
      (engine.exports host d left w).1 with
  | mk w₁ result =>
      cases result with
      | error e =>
          have hfailed : (runEngine host d left engine source w).2 = .error e := by
            rw [runEngine_eq_runExports, runExports, hmade]
          have hkind := createRealm_kind d left engine.config (engine.exports host d left w).2
            (engine.exports host d left w).1
          rw [hmade] at hkind
          rw [hfailed]
          refine iff_of_false (fun h => hkind h.cast) ?_
          rintro ⟨r, w₂, hrun, -⟩
          cases hmade.symm.trans hrun.made
      | ok r =>
          have hnew := hunused r w₁ hmade
          rw [runEngine_eq_runExports, runExports_eq hmade hnew]
          cases hnul : nulPosition? source with
          | some n =>
              have hfailed : (Crossing.runSource
                  ⟨d, r, r, Machine.stack engine.config.runtime⟩ source
                  (w₁.starting r source)).2 = .error (.nulInSource n) := by
                rw [Crossing.runSource, hnul]
              dsimp only
              rw [hfailed]
              refine iff_of_false (FailsToCompile.not_error (by rintro t ⟨⟩)) ?_
              rintro ⟨r', w₂, hrun, -⟩
              cases hnul.symm.trans hrun.noNul
          | none =>
              refine (Crossing.runSource_kind hd hnew.made hnul hnew.named).trans ?_
              refine ⟨fun h => ⟨r, w₁, ⟨hmade, hnul⟩, h⟩, ?_⟩
              rintro ⟨r', w₂, hrun, h⟩
              -- The run was given one realm only.
              obtain ⟨rfl, hr⟩ := Prod.mk.inj (hmade.symm.trans hrun.made)
              cases hr
              exact h

end Fresh

section Calls

variable {d : Dispatcher φ σ} (hd : ∀ context call (w : World φ σ), Grows w (d context call w).1)
include hd

/-- A function goes back into the context of its realm or into none. -/
theorem Crossing.callFunction_kind {context r : RealmRef} {stack : Script.Stack} {w : World φ σ}
    (hr : r < w.realms.size) (o : ObjectRef) (arguments : List (Value φ)) :
    FailsToCompile (Crossing.callFunction ⟨d, context, r, stack⟩ (.captured r o) arguments w).2 ↔
      context = r ∧ ∃ vs w₁,
        Crossing.extractAll ⟨d, r, r, stack⟩ arguments w = (w₁, .ok vs) ∧
        Crossing.ThrowsNamed ⟨d, r, r, stack⟩
          ((Machine.evaluator stack).call (.object o) (.object Script.Place.global) vs) w₁
          "SyntaxError" := by
  have hrestore : Crossing.restore ⟨d, context, r, stack⟩ (.captured r o) w =
      (w, if r = context then .ok (.object o) else .error .otherEngine) := if_pos rfl
  unfold Crossing.callFunction
  rw [hrestore]
  by_cases hcontext : r = context
  · subst hcontext
    rw [if_pos rfl]
    dsimp only
    have hkind := Crossing.extractAll_kind ⟨d, r, r, stack⟩ arguments w
    have hgrows := ((Comparison.self Grows.frame hd).extractAll (c := ⟨d, r, r, stack⟩) arguments
      (w := w) ⟨⟩).bound
    generalize Crossing.extractAll ⟨d, r, r, stack⟩ arguments w = a at hkind hgrows ⊢
    obtain ⟨w₁, e | vs⟩ := a
    · refine iff_of_false (fun h => hkind h.cast) ?_
      rintro ⟨-, vs, w₁, h, -⟩
      cases h
    · refine (Crossing.conclude_run_kind (c := ⟨d, r, r, stack⟩) hd
        (Nat.lt_of_lt_of_le hr hgrows.size_le) _).trans ?_
      refine ⟨fun h => ⟨rfl, vs, w₁, rfl, h⟩, ?_⟩
      rintro ⟨-, vs', w₂, heq, h⟩
      cases heq
      exact h
  · rw [if_neg hcontext]
    exact iff_of_false (FailsToCompile.not_error (by rintro t ⟨⟩)) fun h => hcontext h.1.symm

/-- What comes of a call is decided by how the function ends. -/
theorem callFunction_kind (host : Host φ γ σ) (left : Script.Stack) (r : RealmRef) (o : ObjectRef)
    (arguments : List (Value φ)) (w : World φ σ) :
    FailsToCompile (callFunction host d left (.captured r o) arguments w).2 ↔
      ∃ stack vs w₁, CallsFunction d left r arguments w stack vs w₁ ∧
        Crossing.ThrowsNamed ⟨d, r, r, stack⟩
          ((Machine.evaluator stack).call (.object o) (.object Script.Place.global) vs) w₁
          "SyntaxError" := by
  let w' : World φ σ := ((w.record (.calling (w.idOf r) arguments.length)).enter r).2
  have hresult : (callFunction host d left (.captured r o) arguments w).2 =
      (w'.withContext r left fun context stack w =>
        Crossing.callFunction ⟨d, context, r, stack⟩ (.captured r o) arguments w).2 := rfl
  rw [hresult]
  constructor
  · intro h
    -- The engine of the realm is entered already, or it is now, or there is none.
    cases hidle : w'.context? r with
    | some context =>
        have hr := World.lt_size_of_context? hidle
        rw [World.withContext, hidle] at h
        obtain ⟨rfl, vs, w₁, hextract, hthrows⟩ := (Crossing.callFunction_kind hd hr o _).mp h
        exact ⟨left, vs, w₁, .intro (.live hidle hr) hextract, hthrows⟩
    | none =>
        cases hscript : (w'.realm r).isScript with
        | true =>
            rw [World.withContext_idle hidle hscript] at h
            obtain ⟨-, vs, w₁, hextract, hthrows⟩ :=
              (Crossing.callFunction_kind (w := { w' with live := r :: w'.live }) hd
                (w'.lt_size_of_isScript hscript) o _).mp h
            exact ⟨_, vs, w₁, .intro (.idle hidle hscript) hextract, hthrows⟩
        | false =>
            rw [World.withContext, hidle] at h
            dsimp only at h
            rw [hscript] at h
            exact absurd h (FailsToCompile.not_error (by rintro t ⟨⟩))
  · rintro ⟨stack, vs, w₁, ⟨hcontext, hextract⟩, hthrows⟩
    rw [hcontext.withContext]
    exact (Crossing.callFunction_kind hd hcontext.lt_size o _).mpr
      ⟨rfl, vs, w₁, hextract, hthrows⟩

end Calls

/-! ## Compile errors -/

/-- A compile error is a syntax error that nobody has caught.  A run ends with one if and only
if its source is refused with a syntax error, or the script that was started ends by throwing
an error whose name reads `SyntaxError`.  When the source is refused, for whatever reason, then
nothing of it has run and, from the exports on, nothing was called; all that is left behind is the
error object, if there is one; and it is a compile error if and only if that is a syntax error.  A
call of a function of a realm is a compile error if and only if the function ends by throwing such
an error. -/
theorem compile_errors_are_syntax_errors [LawfulMachine] {host : Host φ γ σ} {w : World φ σ}
    (hn : w.Numbered) (hlive : ∀ s ∈ w.live, s < w.realms.size) (n : Nat) (left : Script.Stack)
    (engine : Engine γ) (source : String)
    (hfew : (engine.exports host (dispatcher host n) left w).1.realms.size + 1 < 2 ^ 32) :
    (FailsToCompile (runEngine host (dispatcher host n) left engine source w).2 ↔
      ∃ r w₁, RunsSource host (dispatcher host n) left engine source w r w₁ ∧
        ((∃ why, Machine.load (Machine.stack engine.config.runtime) source (w₁.heap r) =
            .error why ∧ why.IsSyntax) ∨
          ∃ program, Machine.load (Machine.stack engine.config.runtime) source (w₁.heap r) =
              .ok program ∧
            Crossing.ThrowsNamed ⟨dispatcher host n, r, r, Machine.stack engine.config.runtime⟩
              program (w₁.starting r source) "SyntaxError")) ∧
    (∀ r w₁ why, RunsSource host (dispatcher host n) left engine source w r w₁ →
      Machine.load (Machine.stack engine.config.runtime) source (w₁.heap r) = .error why →
        runEngine host (dispatcher host n) left engine source w =
          ((w₁.recordRun r source).setHeap r (why.leaves (w₁.heap r)), .error why.failure) ∧
        (∀ d : Dispatcher φ σ,
          runExports d left engine.config (engine.exports host (dispatcher host n) left w).2 source
              (engine.exports host (dispatcher host n) left w).1 =
            runEngine host (dispatcher host n) left engine source w) ∧
        (FailsToCompile (runEngine host (dispatcher host n) left engine source w).2 ↔
          why.IsSyntax)) ∧
    ∀ r o arguments,
      FailsToCompile (callFunction host (dispatcher host n) left (.captured r o) arguments w).2 ↔
        ∃ stack vs w₁, CallsFunction (dispatcher host n) left r arguments w stack vs w₁ ∧
          Crossing.ThrowsNamed ⟨dispatcher host n, r, r, stack⟩
            ((Machine.evaluator stack).call (.object o) (.object Script.Place.global) vs) w₁
            "SyntaxError" := by
  have hd := dispatcher_grows host n
  have hgrows := engine.exports_grows host hd left w
  have hsame := engine.exports_sameLive host n left w
  have hlive' (s : RealmRef) (hs : s ∈ (engine.exports host (dispatcher host n) left w).1.live) :
      s < (engine.exports host (dispatcher host n) left w).1.realms.size :=
    Nat.lt_of_lt_of_le (hlive s (hsame ▸ hs)) hgrows.size_le
  refine ⟨runEngine_kind hd fun r w₁ hmade =>
      (createRealm_unused (hgrows.numbered hn) hlive' hfew hmade).1,
    fun r w₁ why hrun hload => ?_,
    fun r o arguments => callFunction_kind hd host left r o arguments w⟩
  obtain ⟨hunused, hany⟩ := createRealm_unused (hgrows.numbered hn) hlive' hfew hrun.made
  have hrefused (d : Dispatcher φ σ) := runExports_refused (hany d) hrun.noNul hunused hload
  rw [runEngine_eq_runExports]
  refine ⟨hrefused _, fun d => (hrefused d).trans (hrefused _).symm, ?_⟩
  rw [hrefused, ← why.failure_compile_iff]
  exact exists_congr fun t => (Except.error.injEq _ _).to_iff

end Machine

/-- A realm without exports is made, and the source starts in it. -/
private theorem runsSource_bareHost {source : String} (hnul : nulPosition? source = none) :
    RunsSource bareHost (dispatcher bareHost 1) (Machine.stack {}) ⟨{}, ()⟩ source (.start ()) 0
      bareWorld := by
  have hmade : (createRealm (dispatcher bareHost 1) (Machine.stack {}) {} .empty
      (.start () : World Unit Unit)).2 = .ok 0 := by decide +kernel
  exact ⟨Prod.snd_eq_iff.mp hmade, hnul⟩

theorem compile_errors_are_syntax_errors_unread :
    (.start () : World Unit Unit).Numbered ∧
      (∀ s ∈ (.start () : World Unit Unit).live, s < (.start () : World Unit Unit).realms.size) ∧
      (Engine.exports ⟨{}, ()⟩ bareHost (dispatcher bareHost 1) (Machine.stack {})
        (.start ())).1.realms.size + 1 < 2 ^ 32 ∧
      FailsToCompile (runEngine bareHost (dispatcher bareHost 1) (Machine.stack {}) ⟨{}, ()⟩ "var"
        (.start ())).2 := by
  have hlive : ∀ s ∈ (.start () : World Unit Unit).live,
      s < (.start () : World Unit Unit).realms.size := fun s hs => absurd hs List.not_mem_nil
  have hrun : RunsSource bareHost (dispatcher bareHost 1) (Machine.stack {}) ⟨{}, ()⟩ "var"
      (.start ()) 0 bareWorld := runsSource_bareHost (by decide)
  have hload : Machine.load (Machine.stack {}) "var" (bareWorld.heap 0) =
      .error Script.Rejection.unexpected.refusal := failure?_eq_some.mp (by decide +kernel)
  exact ⟨.start (), hlive, by decide,
    (compile_errors_are_syntax_errors (.start ()) hlive 1 (Machine.stack {}) ⟨{}, ()⟩ "var"
      (by decide)).1.mpr ⟨0, bareWorld, hrun, .inl ⟨_, hload, rfl⟩⟩⟩

/-- A script that can be read, and was started, ends with a compile error. -/
theorem late_compile_error :
    (Machine.load (Machine.stack {}) "throw new SyntaxError('late')"
        (bareWorld.heap 0)).toOption.isSome = true ∧
      failure? (bareHost.run ⟨{}, ()⟩ "throw new SyntaxError('late')" (.start ())).2 =
        some (.script (.compile
          "SyntaxError: late\nStacktrace:\n    at <eval> (eval_script)\n")) := by
  decide +kernel

end ScriptHost
