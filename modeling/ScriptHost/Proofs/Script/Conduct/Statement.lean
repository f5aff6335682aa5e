import ScriptHost.Proofs.Script.Conduct.Expression
import ScriptHost.Script.Interpreter

/-!
# Statements and scripts conduct themselves

A statement evaluates expressions and keeps values in scopes.  The evaluators for deeper
and deeper code are shown to conduct themselves by induction on the depth, and so is
everything that a script of a realm does.
-/

namespace ScriptHost.Script

variable {R : RefRule} {h : Heap} {ev : Evaluator} {env : Env}

/-! ## The value of a script -/

theorem note_conducts (env : Env) {v : Val} (hv : v.Sound R h.size) :
    Action.Conducts R h .any (note env v) := by
  unfold note
  split
  · exact .modifyScope _ fun _ _ hl _ hs => hs.assign _ (hv.mono hl.size_le)
  · exact .pure trivial

theorem noted_conducts (env : Env) : Action.Conducts R h (.val R) (noted env) := by
  unfold noted
  split
  · refine .read fun h' _ hs => Val.sound_getD (fun v hv => ?_) trivial
    obtain ⟨b, hb, hvalue⟩ := Option.bind_eq_some_iff.mp hv
    exact hs.scope_find? _ hb v hvalue
  · exact .pure trivial

/-! ## Blocks and declarations -/

theorem innerScope_conducts (henv : env.Sound R h.size) {bs : List (Name × Binding)}
    (hbs : ∀ b ∈ bs, b.2.Sound R h.size) :
    Action.Conducts R h (.env R) (innerScope env bs) := by
  refine Action.Conducts.bind (.allocateScope fun h' hl _ b hb v hv => ?_)
    fun _ _ hl _ _ => .pure (henv.later hl)
  exact (hbs b hb v hv).mono hl.size_le

theorem enterBlock_conducts (henv : env.Sound R h.size) (body : List Stmt) :
    Action.Conducts R h (.env R) (enterBlock env body) := by
  refine .ite (fun _ => .pure henv) fun _ => ?_
  refine (innerScope_conducts henv fun b hb => absurd hb List.not_mem_nil).bind
    fun _ env _ _ henv => ?_
  refine (declareLexical_conducts env.scope body).bind fun _ _ hl _ _ => ?_
  have henv := Env.Sound.later henv hl
  exact (declareFunctions_conducts henv body).bind fun _ _ hl _ _ => .pure (henv.later hl)

theorem runBlock_conducts (hev : ev.Conducts R) (henv : env.Sound R h.size) (body : List Stmt) :
    Action.Conducts R h (.flow R) (runBlock ev env body) :=
  (enterBlock_conducts henv body).bind fun _ _ _ _ henv => runAll_conducts hev henv body

theorem giveFirstValue_conducts (env : Env) (n : Name) {v : Val} (hv : v.Sound R h.size) :
    Action.Conducts R h .any (giveFirstValue env n v) :=
  .modifyScope env.scope fun _ _ hl _ hs => hs.assign n (hv.mono hl.size_le)

theorem declareOne_conducts (hev : ev.Conducts R) (henv : env.Sound R h.size) (d : Declarator)
    (b : Name × Option Expr) : Action.Conducts R h .any (declareOne ev env d b) := by
  obtain ⟨n, e⟩ := b
  unfold declareOne
  split
  · exact .pure trivial
  · rename_i e he
    refine (lookUp_conducts env _).bind fun h₁ known hl₁ _ _ => ?_
    exact (hev.expr e (henv.later hl₁)).bind fun _ v _ _ hv => writeName_conducts hev env _ known hv
  · split
    · exact (hev.expr _ henv).bind fun _ _ _ _ hv => giveFirstValue_conducts env n hv
    · exact Action.Conducts.bind (P := .val R) (.pure trivial)
        fun _ _ _ _ hv => giveFirstValue_conducts env n hv

/-! ## Loops -/

/-- What a round of a loop gives: where it leads to, and the environment of the next one. -/
def Post.round (R : RefRule) : Post (Option Flow × Env) := .pair (.option (.flow R)) (.env R)

theorem afterRound_sound {n : Nat} (labels : List Name) {flow : Flow} (hflow : flow.Sound R n) :
    ∀ f ∈ afterRound labels flow, f.Sound R n := by
  intro f hf
  unfold afterRound at hf
  split at hf
  · cases hf
  · cases hf
  · cases hf
    trivial
  · split at hf
    · cases hf
    · cases hf
      trivial
  · cases hf
    exact hflow

/-- A loop conducts itself if each of its rounds does. -/
theorem rounds_conducts (labels : List Name) {round : Env → Action (Option Flow × Env)}
    (hround : ∀ h' env, h.Later h' → env.Sound R h'.size →
      Action.Conducts R h' (.round R) (round env))
    (n : Nat) (henv : env.Sound R h.size) :
    Action.Conducts R h (.flow R) (rounds labels round n env) := by
  induction n generalizing h env with
  | zero => exact raiseTooDeep_conducts
  | succ n ih =>
      refine (hround h env (.refl h) henv).bind fun h₁ result hl _ hresult => ?_
      obtain ⟨flow, env'⟩ := result
      cases flow with
      | none => exact ih (fun h' env'' hl' => hround h' env'' (hl.trans hl')) hresult.2
      | some flow => exact .pure (hresult.1 flow rfl)

theorem leave_round {flow : Option Flow} {n : Nat} (hflow : ∀ f ∈ flow, f.Sound R n)
    (henv : env.Sound R n) : (Post.round R).Holds n (flow, env) :=
  ⟨hflow, henv⟩

/-- A loop ends with the next statement. -/
theorem end_sound {n : Nat} : ∀ f ∈ some Flow.next, f.Sound R n :=
  fun f hf => by cases hf; trivial

theorem whileRound_conducts (hev : ev.Conducts R) (henv : env.Sound R h.size) (c : Expr)
    (labels : List Name) (body : Stmt) :
    Action.Conducts R h (.round R) (whileRound ev c labels body env) := by
  refine (hev.expr c henv).bind fun h₁ v hl₁ _ _ => ?_
  refine .ite (fun _ => ?_) fun _ => .pure (leave_round end_sound (henv.later hl₁))
  exact (hev.stmt body (henv.later hl₁)).bind fun h₂ flow hl₂ _ hflow =>
    .pure (leave_round (afterRound_sound labels hflow) (henv.later (hl₁.trans hl₂)))

theorem repeatRound_conducts (hev : ev.Conducts R) (henv : env.Sound R h.size) (c : Expr)
    (labels : List Name) (body : Stmt) :
    Action.Conducts R h (.round R) (repeatRound ev c labels body env) := by
  refine (hev.stmt body henv).bind fun h₁ flow hl₁ _ hflow => ?_
  split
  · rename_i f hf
    refine .pure (leave_round (fun f' hf' => ?_) (henv.later hl₁))
    exact afterRound_sound labels hflow f' (hf ▸ hf')
  · refine (hev.expr c (henv.later hl₁)).bind fun h₂ v hl₂ _ _ => .pure (leave_round ?_ ?_)
    · intro f hf
      split at hf <;> cases hf
      trivial
    · exact henv.later (hl₁.trans hl₂)

theorem copyScope_conducts (henv : env.Sound R h.size) :
    Action.Conducts R h (.env R) (copyScope env) :=
  Action.Conducts.bind (.allocateScope fun _ _ hs => hs.scopes env.scope)
    fun _ _ hl _ _ => .pure (henv.later hl)

theorem optionalExpr_conducts (hev : ev.Conducts R) (henv : env.Sound R h.size)
    (e : Option Expr) (absent : Val) (habsent : absent.Sound R h.size) :
    Action.Conducts R h (.val R) (optionalExpr ev env e absent) := by
  cases e with
  | none => exact .pure habsent
  | some e => exact hev.expr e henv

theorem loopRound_conducts (hev : ev.Conducts R) (henv : env.Sound R h.size) (fresh : Bool)
    (c next : Option Expr) (labels : List Name) (body : Stmt) :
    Action.Conducts R h (.round R) (loopRound ev fresh c next labels body env) := by
  refine (optionalExpr_conducts hev henv c (.bool true) trivial).bind fun h₁ v hl₁ _ _ => ?_
  refine .ite (fun _ => ?_) fun _ => .pure (leave_round end_sound (henv.later hl₁))
  refine (hev.stmt body (henv.later hl₁)).bind fun h₂ flow hl₂ _ hflow => ?_
  have henv₂ := henv.later (hl₁.trans hl₂)
  have hnext {h' : Heap} {env : Env} (henv : env.Sound R h'.size) :
      Action.Conducts R h' (.round R) (do
        let _ ← optionalExpr ev env next .undefined
        pure (none, env)) :=
    (optionalExpr_conducts hev henv next .undefined trivial).bind fun _ _ hl _ _ =>
      .pure (leave_round (fun _ hf => absurd hf (Option.not_mem_none _)) (henv.later hl))
  split
  · rename_i f hf
    refine .pure (leave_round (fun f' hf' => ?_) henv₂)
    exact afterRound_sound labels hflow f' (hf ▸ hf')
  · split
    · exact (copyScope_conducts henv₂).bind fun _ _ _ _ henv => hnext henv
    · exact Action.Conducts.bind (P := .env R) (.pure henv₂) fun _ _ _ _ henv => hnext henv

theorem runLoop_conducts (hev : ev.Conducts R) (henv : env.Sound R h.size) (start : Stmt)
    (c next : Option Expr) (body : Stmt) :
    Action.Conducts R h (.flow R) (runLoop ev env start c next body) := by
  refine (enterBlock_conducts henv _).bind fun h₁ env _ _ henv => ?_
  have hempty : Env.Sound R h₁.size { env with completion := none } := henv
  refine (hev.stmt start hempty).bind fun h₂ _ hl₂ _ _ => ?_
  refine rounds_conducts _ (fun h' env' _ henv' => ?_) _ (Env.Sound.later henv hl₂)
  exact loopRound_conducts hev henv' _ c next _ body

/-! ## Guarded blocks -/

theorem runHandler_conducts (hev : ev.Conducts R) (henv : env.Sound R h.size)
    (param : Option Name) (body : List Stmt) {v : Val} (hv : v.Sound R h.size) :
    Action.Conducts R h (.flow R) (runHandler ev env param body v) := by
  unfold runHandler
  split
  · refine (innerScope_conducts henv fun b hb => ?_).bind
      fun _ _ _ _ henv => runBlock_conducts hev henv body
    rw [List.mem_singleton.mp hb]
    exact fun x hx => by cases hx; exact hv
  · exact Action.Conducts.bind (P := .env R) (.pure henv)
      fun _ _ _ _ henv => runBlock_conducts hev henv body

theorem runGuarded_conducts (hev : ev.Conducts R) (henv : env.Sound R h.size)
    (body : List Stmt) (handler : Option (Option Name × List Stmt)) :
    Action.Conducts R h (.flow R) (runGuarded ev env body handler) := by
  have hbody := framed_conducts ev.stack (runBlock_conducts hev henv body)
  unfold runGuarded
  split
  · exact hbody
  · exact hbody.recover fun _ _ hl _ hv => runHandler_conducts hev (henv.later hl) _ _ hv

theorem runFinalizer_conducts (hev : ev.Conducts R) (henv : env.Sound R h.size)
    (body : List Stmt) {o : Outcome Flow} (ho : (Post.outcome R (.flow R)).Holds h.size o) :
    Action.Conducts R h (.flow R) (runFinalizer ev env body o) := by
  refine (noted_conducts env).bind fun h₁ before hl₁ _ hbefore => ?_
  refine (note_conducts (v := .undefined) env trivial).bind fun h₂ _ hl₂ _ _ => ?_
  have hl₂' := hl₁.trans hl₂
  refine (runBlock_conducts hev (henv.later hl₂') body).bind fun h₃ flow hl₃ _ hflow => ?_
  have hbefore₃ : before.Sound R h₃.size := Val.Sound.mono hbefore (hl₂.trans hl₃).size_le
  refine (note_conducts env hbefore₃).bind fun h₄ _ hl₄ _ _ => ?_
  split
  · exact .ofOutcome (Post.mono _ ((hl₂'.trans hl₃).trans hl₄).size_le ho)
  · exact .pure (Post.mono (.flow R) hl₄.size_le hflow)

/-! ## Statements -/

theorem guarded_conducts (hev : ev.Conducts R) (henv : env.Sound R h.size) (body : List Stmt)
    (handler : Option (Option Name × List Stmt)) (finalizer : Option (List Stmt)) :
    Action.Conducts R h (.flow R) (stmtRule ev env (.guarded body handler finalizer)) := by
  have hinner : Env.Sound R h.size { env with labels := [] } := henv
  refine (note_conducts (v := .undefined) env trivial).bind fun h₁ _ hl₁ _ _ => ?_
  have hbody := runGuarded_conducts hev (hinner.later hl₁) body handler
  split
  · exact hbody
  · refine (framed_conducts ev.stack hbody).outcome.bind fun h₂ o hl₂ _ ho => ?_
    split
    · exact .suspend
    · exact runFinalizer_conducts hev (hinner.later (hl₁.trans hl₂)) _ ho

theorem stmtRule_conducts (hev : ev.Conducts R) (henv : env.Sound R h.size) (s : Stmt) :
    Action.Conducts R h (.flow R) (stmtRule ev env s) := by
  have hinner : Env.Sound R h.size { env with labels := [] } := henv
  cases s with
  | empty => exact .pure trivial
  | expr e =>
      refine (hev.expr e hinner).bind fun _ v _ _ hv => ?_
      exact (note_conducts env hv).bind fun _ _ _ _ _ => .pure trivial
  | block body => exact runBlock_conducts hev hinner body
  | declare d bindings =>
      refine (Action.Conducts.each (P := .any) fun _ b _ hl _ => ?_).bind
        fun _ _ _ _ _ => .pure trivial
      exact declareOne_conducts hev (hinner.later hl) d b
  | function f => exact .pure trivial
  | classes f =>
      refine (makeFunction_conducts hinner f).bind fun _ v _ _ hv => ?_
      exact (giveFirstValue_conducts _ f.name hv).bind fun _ _ _ _ _ => .pure trivial
  | choose c a b =>
      refine (note_conducts (v := .undefined) env trivial).bind fun h₁ _ hl₁ _ _ => ?_
      exact (hev.expr c (hinner.later hl₁)).bind fun h₂ v hl₂ _ _ =>
        hev.stmt _ (hinner.later (hl₁.trans hl₂))
  | «while» c body =>
      refine (note_conducts (v := .undefined) env trivial).bind fun h₁ _ hl₁ _ _ => ?_
      exact rounds_conducts _ (fun _ _ _ henv => whileRound_conducts hev henv c _ body) _
        (hinner.later hl₁)
  | repeatWhile body c =>
      refine (note_conducts (v := .undefined) env trivial).bind fun h₁ _ hl₁ _ _ => ?_
      exact rounds_conducts _ (fun _ _ _ henv => repeatRound_conducts hev henv c _ body) _
        (hinner.later hl₁)
  | loop start c next body =>
      exact (note_conducts (v := .undefined) env trivial).bind fun h₁ _ hl₁ _ _ =>
        runLoop_conducts hev (henv.later hl₁) start c next body
  | «return» e =>
      exact (optionalExpr_conducts hev hinner e .undefined trivial).bind fun _ _ _ _ hv => .pure hv
  | raise e =>
      exact (hev.expr e hinner).bind fun _ _ _ _ hv => framed_conducts _ (.raise hv)
  | guarded body handler finalizer => exact guarded_conducts hev henv body handler finalizer
  | leave label => exact .pure trivial
  | advance label => exact .pure trivial
  | labelled n body =>
      have hlabelled : Env.Sound R h.size { env with labels := n :: env.labels } := henv
      refine (hev.stmt body hlabelled).bind fun _ flow _ _ hflow => ?_
      split
      · refine .pure ?_
        split <;> trivial
      · exact .pure hflow

/-! ## Evaluators -/

theorem bodyEvaluator_conducts {calls : Evaluator} (hcalls : calls.Conducts R) (n : Nat) :
    (bodyEvaluator calls n).Conducts R := by
  induction n with
  | zero =>
      exact ⟨fun _ _ => raiseTooDeep_conducts, fun _ _ => raiseTooDeep_conducts, hcalls.call,
        hcalls.construct⟩
  | succ n ih =>
      refine ⟨fun e henv => exprRule_conducts ih henv e, fun s henv => stmtRule_conducts ih henv s,
        ?_, ?_⟩
      · exact hcalls.call
      · exact hcalls.construct

theorem noCalls_conducts (stack : Stack) :
    Evaluator.Conducts R { noCalls with stack := stack } :=
  ⟨fun _ _ => raiseTooDeep_conducts, fun _ _ => raiseTooDeep_conducts,
    fun _ _ _ => raiseTooDeep_conducts, fun _ _ => raiseTooDeep_conducts⟩

theorem withinRoom_conducts {α : Type} {P : Post α} (stack : Stack) (f : Val)
    {call : Stack → Action α}
    (hcall : ∀ h' stack, h.Later h' → Action.Conducts R h' P (call stack)) :
    Action.Conducts R h P (withinRoom stack f call) := by
  refine .read_bind fun h' hl _ => ?_
  split
  · exact raiseTooDeep_conducts
  · exact hcall _ _ hl

/-- However many calls may nest, what they do conducts itself. -/
theorem nestedEvaluator_conducts (n : Nat) (stack : Stack) :
    (nestedEvaluator n stack).Conducts R := by
  induction n generalizing stack with
  | zero => exact bodyEvaluator_conducts (noCalls_conducts stack) _
  | succ n ih =>
      have hcalls := noCalls_conducts (R := R) stack
      refine bodyEvaluator_conducts ?_ _
      refine ⟨hcalls.expr, hcalls.stmt, fun hf hreceiver hvs => ?_, fun hf hvs => ?_⟩
      · dsimp only
        refine withinRoom_conducts stack _ fun h' stack' hl => ?_
        exact callRule_conducts (ih stack') (hf.mono hl.size_le) (hreceiver.mono hl.size_le)
          (sound_later hvs hl)
      · dsimp only
        refine withinRoom_conducts stack _ fun h' stack' hl => ?_
        exact constructRule_conducts (ih stack') (hf.mono hl.size_le) (sound_later hvs hl)

theorem evaluator_conducts (stack : Stack) : (evaluator stack).Conducts R :=
  nestedEvaluator_conducts stack.room stack

/-! ## Scripts -/

theorem checkGlobal_conducts (d : Name × GlobalKind) :
    Action.Conducts R h .any (checkGlobal d) := by
  refine .read_bind fun h₁ _ _ => .read_bind fun h₂ _ _ => ?_
  dsimp only
  split
  · exact .ite (fun _ => raiseAbout_conducts _ _ _ _) fun _ => .pure trivial
  · refine .ite (fun _ => raiseAbout_conducts _ _ _ _) fun _ => ?_
    exact .ite (fun _ => raiseAbout_conducts _ _ _ _) fun _ => .pure trivial
  · refine .ite (fun _ => raiseAbout_conducts _ _ _ _) fun _ => ?_
    exact .ite (fun _ => raiseAbout_conducts _ _ _ _) fun _ => .pure trivial

theorem makeGlobal_conducts (d : Name × GlobalKind) :
    Action.Conducts R h .any (makeGlobal d) := by
  unfold makeGlobal
  split
  · refine .modifyScope _ fun h' s _ _ hs => hs.declare d.1 ?_
    exact fun v hv => absurd hv (Option.not_mem_none v)
  · refine .modify _ (fun o => ?_) fun h' o _ _ ho => ?_
    · split
      · rfl
      · exact (o.shape_put _ _).kind
    · split
      · exact ho
      · exact ho.put _ trivial
  · exact .pure trivial

theorem makeGlobalFunction_conducts (henv : env.Sound R h.size) (f : Lambda) :
    Action.Conducts R h .any (makeGlobalFunction env f) := by
  refine (makeFunction_conducts henv f).bind fun h₁ v _ _ hv => ?_
  refine .modify _ (fun o => (o.shape_put _ _).kind) fun h₂ o hl _ ho => ho.put _ ?_
  have hv₂ : v.Sound R h₂.size := Val.Sound.mono hv hl.size_le
  split
  · split
    · exact hv₂
    · exact hv₂
  · exact hv₂

theorem declareGlobals_conducts (henv : env.Sound R h.size) (body : List Stmt) :
    Action.Conducts R h .any (declareGlobals env body) := by
  refine (Action.Conducts.each (P := .any) fun _ d _ _ _ => checkGlobal_conducts d).bind
    fun h₁ _ hl₁ _ _ => ?_
  refine (Action.Conducts.each (P := .any) fun _ d _ _ _ => makeGlobal_conducts d).bind
    fun h₂ _ hl₂ _ _ => ?_
  refine (Action.Conducts.each (P := .any) fun h₃ f _ hl₃ _ => ?_).bind
    fun _ _ _ _ _ => .pure trivial
  exact makeGlobalFunction_conducts (henv.later ((hl₁.trans hl₂).trans hl₃)) f

theorem runProgram_conducts (stack : Stack) (body : List Stmt) :
    Action.Conducts R h (.val R) (runProgram stack body) := by
  refine framed_conducts _ (.here fun h₁ _ hs₁ => ?_)
  refine Action.Conducts.bind (.allocateScope fun h' _ _ b hb => ?_) fun h₂ r hl₂ _ _ => ?_
  · rw [List.mem_singleton.mp hb]
    exact fun v hv => by cases hv; trivial
  · have henv : Env.Sound R h₂.size ⟨Place.globalScope, .object Place.global, some r, []⟩ :=
      R.mono hl₂.size_le (hs₁.place (by decide))
    refine (declareGlobals_conducts henv body).bind fun h₃ _ hl₃ _ _ => ?_
    exact (runAll_conducts (evaluator_conducts _) (henv.later hl₃) body).bind
      fun _ _ _ _ _ => noted_conducts _

end ScriptHost.Script
