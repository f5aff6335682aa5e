import ScriptHost.Proofs.Script.Rename.Builtin
import ScriptHost.Script.Interpreter

/-!
# Programs do not depend on the names of realms

Expressions and statements evaluate their parts with an evaluator, so the interpreter is uniform
by induction on how deep code may nest, and with it the programs that it runs.
-/

namespace ScriptHost.Script

variable {ρ : UInt32 → UInt32} {α : Type} {ev : Evaluator}

/-! ## Names -/

theorem readName_uniform (hev : ev.Uniform ρ) (env : Env) (n : Name) {missing : Action Val}
    (hmissing : missing.Uniform ρ) : Action.Uniform ρ (readName ev env n missing) := by
  refine (Action.Uniform.read fun h => h.resolve?_rename ρ _ _).bind fun found => ?_
  split
  · exact .pure _
  · exact raiseAbout_uniform _ _ _ _
  · refine (Action.Uniform.read fun h => h.findProperty?_rename ρ _ _).bind fun p => ?_
    split
    · exact Slot.value_uniform hev _ _
    · exact hmissing

theorem raiseUndeclared_uniform (n : Name) : Action.Uniform ρ (raiseUndeclared n : Action α) :=
  raiseAbout_uniform _ _ _ _

theorem raiseReadOnly_uniform (n : Name) : Action.Uniform ρ (raiseReadOnly n : Action α) :=
  raiseAbout_uniform _ _ _ _

theorem lookUp_uniform (env : Env) (n : Name) : Action.Uniform ρ (lookUp env n) := by
  refine (Action.Uniform.read fun h => h.resolve?_rename ρ _ _).bind fun found => ?_
  split
  · exact .ite (.pure _) (raiseReadOnly_uniform n)
  · exact .read fun h => by rw [h.findProperty?_rename]

theorem writeName_uniform (hev : ev.Uniform ρ) (env : Env) (n : Name) (known : Bool) (v : Val) :
    Action.Uniform ρ (writeName ev env n known v) := by
  refine .ite (raiseUndeclared_uniform n) ?_
  refine (Action.Uniform.read fun h => h.resolve?_rename ρ _ _).bind fun found => ?_
  split
  · exact raiseAbout_uniform _ _ _ _
  · exact raiseReadOnly_uniform n
  · exact .modifyScope _ _
  · exact setPropertyOr_uniform hev (fun _ => raiseUndeclared_uniform n) _ _ _

/-! ## Targets -/

theorem getItem_uniform (hev : ev.Uniform ρ) (object k : Val) :
    Action.Uniform ρ (getItem ev object k) := by
  unfold getItem
  split
  · exact raiseError_uniform _ _
  · exact raiseError_uniform _ _
  · exact (toKey_uniform hev k).bind fun k => getProperty_uniform hev _ k

theorem readTarget_uniform (hev : ev.Uniform ρ) (env : Env) (t : Target) :
    Action.Uniform ρ (readTarget ev env t) := by
  cases t with
  | name n =>
      exact (readName_uniform hev env n (raiseUndeclared_uniform n)).bind fun _ => .pure _
  | field o n =>
      exact (hev.expr env o).bind fun o => (getProperty_uniform hev o _).bind fun _ => .pure _
  | item o k =>
      exact (hev.expr env o).bind fun o => (hev.expr env k).bind fun k =>
        (getItem_uniform hev o k).bind fun _ => .pure _

theorem assignTarget_uniform (hev : ev.Uniform ρ) (env : Env) (t : Target) (e : Expr) :
    Action.Uniform ρ (assignTarget ev env t e) := by
  cases t with
  | name n =>
      refine (lookUp_uniform env n).bind fun known => (hev.expr env e).bind fun v => ?_
      exact (writeName_uniform hev env n known v).bind fun _ => .pure _
  | field o n =>
      refine (hev.expr env o).bind fun o => (hev.expr env e).bind fun v => ?_
      exact (setProperty_uniform hev o _ v).bind fun _ => .pure _
  | item o k =>
      refine (hev.expr env o).bind fun o => (hev.expr env k).bind fun k => ?_
      refine (hev.expr env e).bind fun v => (toKey_uniform hev k).bind fun k => ?_
      exact (setProperty_uniform hev o k v).bind fun _ => .pure _

theorem findPlace_uniform (hev : ev.Uniform ρ) (env : Env) (t : Target) :
    Action.Uniform ρ (findPlace ev env t) := by
  cases t with
  | name n => exact (lookUp_uniform env n).bind fun _ => .pure _
  | field o n => exact (hev.expr env o).bind fun _ => .pure _
  | item o k =>
      refine (hev.expr env o).bind fun o => (hev.expr env k).bind fun k => ?_
      exact .ite (raiseError_uniform _ _) ((toKey_uniform hev k).bind fun _ => .pure _)

theorem readPlace_uniform (hev : ev.Uniform ρ) (env : Env) (p : Located) :
    Action.Uniform ρ (readPlace ev env p) := by
  cases p with
  | name n known => exact readName_uniform hev env n (raiseUndeclared_uniform n)
  | property o k => exact getProperty_uniform hev o k

theorem writePlace_uniform (hev : ev.Uniform ρ) (env : Env) (p : Located) (v : Val) :
    Action.Uniform ρ (writePlace ev env p v) := by
  cases p with
  | name n known => exact writeName_uniform hev env n known v
  | property o k => exact setProperty_uniform hev o k v

theorem removeTarget_uniform (hev : ev.Uniform ρ) (env : Env) (t : Target) :
    Action.Uniform ρ (removeTarget ev env t) := by
  cases t with
  | name n => exact .pure _
  | field o n => exact (hev.expr env o).bind fun o => removeProperty_uniform o _
  | item o k =>
      exact (hev.expr env o).bind fun o => (hev.expr env k).bind fun k =>
        (toKey_uniform hev k).bind fun k => removeProperty_uniform o k

/-! ## Expressions -/

theorem defineAccessor_uniform (r : ObjectRef) (k : Key) (getter setter : Option Val) :
    Action.Uniform ρ (defineAccessor r k getter setter) :=
  .modify r fun o => o.rename_put ρ k _

theorem keyFunctionName_uniform (k : Key) : Action.Uniform ρ (keyFunctionName k) := by
  cases k with
  | name s => exact .pure _
  | symbol id => exact .read fun _ => rfl

theorem literalKey_uniform (hev : ev.Uniform ρ) (env : Env) (e : Expr) :
    Action.Uniform ρ (literalKey ev env e) :=
  (hev.expr env e).bind fun k => toKey_uniform hev k

theorem addMember_uniform (hev : ev.Uniform ρ) (env : Env) (r : ObjectRef) (m : Member) :
    Action.Uniform ρ (addMember ev env r m) := by
  cases m with
  | data k e =>
      refine (literalKey_uniform hev env k).bind fun k =>
        (keyFunctionName_uniform k).bind fun n => ?_
      exact (hev.expr env _).bind fun v => .modify r fun o => o.rename_put ρ k _
  | prototype e =>
      exact (hev.expr env e).bind fun v => (assignPrototype_uniform _ v).bind fun _ => .pure _
  | getter k f =>
      refine (literalKey_uniform hev env k).bind fun k =>
        (keyFunctionName_uniform k).bind fun n => ?_
      exact (makeFunction_uniform env _).bind fun f => defineAccessor_uniform r k _ _
  | setter k f =>
      refine (literalKey_uniform hev env k).bind fun k =>
        (keyFunctionName_uniform k).bind fun n => ?_
      exact (makeFunction_uniform env _).bind fun f => defineAccessor_uniform r k _ _

theorem objectLiteral_uniform (hev : ev.Uniform ρ) (env : Env) (ms : List Member) :
    Action.Uniform ρ (objectLiteral ev env ms) := by
  refine (newObject_uniform rfl _ _).bind fun o => ?_
  split
  · exact (Action.Uniform.each (addMember_uniform hev env _) ms).bind fun _ => .pure _
  · exact .pure _

theorem bumpPlace_uniform (hev : ev.Uniform ρ) (env : Env) (delta : Int32) (old : Bool)
    (t : Target) : Action.Uniform ρ (bumpPlace ev env delta old t) := by
  refine (findPlace_uniform hev env t).bind fun p => (readPlace_uniform hev env p).bind fun v => ?_
  refine (toNumeric_uniform hev v).bind fun x => ?_
  exact (writePlace_uniform hev env p _).bind fun _ => .pure _

theorem updatePlace_uniform (hev : ev.Uniform ρ) (env : Env) (op : BinaryOp) (t : Target)
    (e : Expr) : Action.Uniform ρ (updatePlace ev env op t e) := by
  refine (findPlace_uniform hev env t).bind fun p => (readPlace_uniform hev env p).bind fun x => ?_
  refine (hev.expr env e).bind fun y => (applyBinary_uniform hev op x y).bind fun v => ?_
  exact (writePlace_uniform hev env p v).bind fun _ => .pure _

theorem element_uniform (hev : ev.Uniform ρ) (env : Env) (e : Option Expr) :
    Action.Uniform ρ (element ev env e) := by
  cases e with
  | none => exact .pure _
  | some e => exact (hev.expr env e).bind fun _ => .pure _

theorem exprRule_uniform (hev : ev.Uniform ρ) (env : Env) (e : Expr) :
    Action.Uniform ρ (exprRule ev env e) := by
  have harguments (es : List Expr) : Action.Uniform ρ (Action.each (ev.expr env) es) :=
    .each (hev.expr env) es
  unfold exprRule
  split
  · exact .pure _
  · exact newObject_uniform rfl _ _
  · exact .pure _
  · exact (Action.Uniform.each (element_uniform hev env) _).bind fun vs =>
      newSparseArray_uniform vs
  · exact objectLiteral_uniform hev env _
  · exact makeFunction_uniform env _
  · exact (readName_uniform hev env _ (.pure _)).bind fun v => applyUnary_uniform hev _ v
  · exact (hev.expr env _).bind fun v => applyUnary_uniform hev _ v
  · exact (removeTarget_uniform hev env _).bind fun _ => .pure _
  · exact bumpPlace_uniform hev env _ _ _
  · exact (hev.expr env _).bind fun x => (hev.expr env _).bind fun y =>
      applyBinary_uniform hev _ x y
  · exact (hev.expr env _).bind fun x => .ite (.pure _) (hev.expr env _)
  · exact (hev.expr env _).bind fun x => .ite (hev.expr env _) (hev.expr env _)
  · exact assignTarget_uniform hev env _ _
  · exact updatePlace_uniform hev env _ _ _
  · exact (hev.expr env _).bind fun _ => hev.expr env _
  · exact (readTarget_uniform hev env _).bind fun _ => .pure _
  · exact (hev.expr env _).bind fun f => (harguments _).bind fun vs => hev.call f _ vs
  · refine (readTarget_uniform hev env _).bind fun target => ?_
    exact (harguments _).bind fun vs => hev.call _ _ vs
  · exact (hev.expr env _).bind fun f => (harguments _).bind fun vs => hev.construct f vs
  · exact (hev.expr env _).bind fun _ => .suspend

/-! ## Statements -/

theorem note_uniform (env : Env) (v : Val) : Action.Uniform ρ (note env v) := by
  unfold note
  split
  · exact .modifyScope _ _
  · exact .pure _

theorem noted_uniform (env : Env) : Action.Uniform ρ (noted env) := by
  unfold noted
  split
  · exact .read fun _ => rfl
  · exact .pure _

theorem innerScope_uniform (env : Env) (bindings : List (Name × Binding)) :
    Action.Uniform ρ (innerScope env bindings) :=
  (Action.Uniform.allocateScope _).bind fun _ => .pure _

theorem enterBlock_uniform (env : Env) (body : List Stmt) :
    Action.Uniform ρ (enterBlock env body) := by
  refine .ite (.pure _) ((innerScope_uniform env []).bind fun env => ?_)
  exact (declareLexical_uniform _ body).bind fun _ =>
    (declareFunctions_uniform env body).bind fun _ => .pure _

theorem runBlock_uniform (hev : ev.Uniform ρ) (env : Env) (body : List Stmt) :
    Action.Uniform ρ (runBlock ev env body) :=
  (enterBlock_uniform env body).bind fun env => runAll_uniform hev env body

theorem giveFirstValue_uniform (env : Env) (n : Name) (v : Val) :
    Action.Uniform ρ (giveFirstValue env n v) :=
  .modifyScope _ _

theorem declareOne_uniform (hev : ev.Uniform ρ) (env : Env) (d : Declarator)
    (b : Name × Option Expr) : Action.Uniform ρ (declareOne ev env d b) := by
  unfold declareOne
  split
  · exact .pure _
  · refine (lookUp_uniform env b.1).bind fun known => (hev.expr env _).bind fun v => ?_
    exact writeName_uniform hev env b.1 known v
  · dsimp only
    split
    · exact (hev.expr env _).bind fun v => giveFirstValue_uniform env b.1 v
    · exact (Action.Uniform.pure _).bind fun v => giveFirstValue_uniform env b.1 v

theorem rounds_uniform (labels : List Name) {round : Env → Action (Option Flow × Env)}
    (hround : ∀ env, Action.Uniform ρ (round env)) (n : Nat) (env : Env) :
    Action.Uniform ρ (rounds labels round n env) := by
  induction n generalizing env with
  | zero => exact raiseTooDeep_uniform
  | succ n ih =>
      refine (hround env).bind fun result => ?_
      obtain ⟨flow, env'⟩ := result
      cases flow with
      | none => exact ih env'
      | some flow => exact .pure _

theorem whileRound_uniform (hev : ev.Uniform ρ) (c : Expr) (labels : List Name) (body : Stmt)
    (env : Env) : Action.Uniform ρ (whileRound ev c labels body env) :=
  (hev.expr env c).bind fun _ => .ite ((hev.stmt env body).bind fun _ => .pure _) (.pure _)

theorem repeatRound_uniform (hev : ev.Uniform ρ) (c : Expr) (labels : List Name) (body : Stmt)
    (env : Env) : Action.Uniform ρ (repeatRound ev c labels body env) := by
  refine (hev.stmt env body).bind fun flow => ?_
  split
  · exact .pure _
  · exact (hev.expr env c).bind fun _ => .pure _

theorem copyScope_uniform (env : Env) : Action.Uniform ρ (copyScope env) :=
  (Action.Uniform.update fun _ => rfl).bind fun _ => .pure _

theorem optionalExpr_uniform (hev : ev.Uniform ρ) (env : Env) (e : Option Expr) (absent : Val) :
    Action.Uniform ρ (optionalExpr ev env e absent) := by
  cases e with
  | none => exact .pure _
  | some e => exact hev.expr env e

theorem loopRound_uniform (hev : ev.Uniform ρ) (fresh : Bool) (c next : Option Expr)
    (labels : List Name) (body : Stmt) (env : Env) :
    Action.Uniform ρ (loopRound ev fresh c next labels body env) := by
  refine (optionalExpr_uniform hev env c _).bind fun v => .ite ?_ (.pure _)
  refine (hev.stmt env body).bind fun flow => ?_
  split
  · exact .pure _
  · have hnext (env : Env) : Action.Uniform ρ (do
        let _ ← optionalExpr ev env next .undefined
        pure ((none, env) : Option Flow × Env)) :=
      (optionalExpr_uniform hev env next _).bind fun _ => .pure _
    exact .ite ((copyScope_uniform env).bind hnext) ((Action.Uniform.pure env).bind hnext)

theorem runLoop_uniform (hev : ev.Uniform ρ) (env : Env) (start : Stmt) (c next : Option Expr)
    (body : Stmt) : Action.Uniform ρ (runLoop ev env start c next body) := by
  refine (enterBlock_uniform env [start]).bind fun inner => (hev.stmt _ start).bind fun _ => ?_
  exact rounds_uniform _ (loopRound_uniform hev _ c next _ body) _ _

theorem runHandler_uniform (hev : ev.Uniform ρ) (env : Env) (param : Option Name)
    (body : List Stmt) (v : Val) : Action.Uniform ρ (runHandler ev env param body v) := by
  unfold runHandler
  dsimp only
  split
  · exact (innerScope_uniform env _).bind fun env => runBlock_uniform hev env body
  · exact (Action.Uniform.pure env).bind fun env => runBlock_uniform hev env body

theorem runGuarded_uniform (hev : ev.Uniform ρ) (env : Env) (body : List Stmt)
    (handler : Option (Option Name × List Stmt)) :
    Action.Uniform ρ (runGuarded ev env body handler) := by
  unfold runGuarded
  split
  · exact framed_uniform _ (runBlock_uniform hev env body)
  · exact (framed_uniform _ (runBlock_uniform hev env body)).recover fun v =>
      runHandler_uniform hev env _ _ v

theorem runFinalizer_uniform (hev : ev.Uniform ρ) (env : Env) (body : List Stmt)
    (o : Outcome Flow) : Action.Uniform ρ (runFinalizer ev env body o) := by
  refine (noted_uniform env).bind fun before => (note_uniform env _).bind fun _ => ?_
  refine (runBlock_uniform hev env body).bind fun flow => (note_uniform env before).bind fun _ => ?_
  split
  · exact .ofOutcome o
  · exact .pure _

theorem stmtRule_uniform (hev : ev.Uniform ρ) (env : Env) (s : Stmt) :
    Action.Uniform ρ (stmtRule ev env s) := by
  cases s with
  | empty => exact .pure _
  | expr e => exact (hev.expr _ e).bind fun v => (note_uniform env v).bind fun _ => .pure _
  | block body => exact runBlock_uniform hev _ body
  | declare d bindings =>
      exact (Action.Uniform.each (declareOne_uniform hev _ d) bindings).bind fun _ => .pure _
  | function f => exact .pure _
  | classes f =>
      exact (makeFunction_uniform _ f).bind fun v =>
        (giveFirstValue_uniform _ f.name v).bind fun _ => .pure _
  | choose c a b =>
      exact (note_uniform env _).bind fun _ => (hev.expr _ c).bind fun v => hev.stmt _ _
  | «while» c body =>
      exact (note_uniform env _).bind fun _ =>
        rounds_uniform _ (whileRound_uniform hev c _ body) _ _
  | repeatWhile body c =>
      exact (note_uniform env _).bind fun _ =>
        rounds_uniform _ (repeatRound_uniform hev c _ body) _ _
  | loop start c next body =>
      exact (note_uniform env _).bind fun _ => runLoop_uniform hev env start c next body
  | «return» e => exact (optionalExpr_uniform hev _ e _).bind fun _ => .pure _
  | raise e => exact (hev.expr _ e).bind fun v => framed_uniform _ (.raise v)
  | guarded body handler finalizer =>
      refine (note_uniform env _).bind fun _ => ?_
      split
      · exact runGuarded_uniform hev _ body handler
      · refine (framed_uniform _ (runGuarded_uniform hev _ body handler)).outcome.bind fun o => ?_
        split
        · exact .suspend
        · exact runFinalizer_uniform hev _ _ _
  | leave label => exact .pure _
  | advance label => exact .pure _
  | labelled n body =>
      refine (hev.stmt _ body).bind fun flow => ?_
      split
      · exact .pure _
      · exact .pure _

/-! ## The interpreter -/

theorem bodyEvaluator_uniform {calls : Evaluator} (hcalls : calls.Uniform ρ) (n : Nat) :
    (bodyEvaluator calls n).Uniform ρ := by
  induction n with
  | zero =>
      exact { hcalls with
        expr := fun _ _ => raiseTooDeep_uniform, stmt := fun _ _ => raiseTooDeep_uniform }
  | succ n ih => exact { hcalls with expr := exprRule_uniform ih, stmt := stmtRule_uniform ih }

theorem noCalls_uniform (stack : Stack) : Evaluator.Uniform ρ { noCalls with stack := stack } where
  expr _ _ := raiseTooDeep_uniform
  stmt _ _ := raiseTooDeep_uniform
  call _ _ _ := raiseTooDeep_uniform
  construct _ _ := raiseTooDeep_uniform
  grants _ _ := rfl

theorem withinRoom_uniform (stack : Stack) (f : Val) {call : Stack → Action α}
    (hcall : ∀ stack, Action.Uniform ρ (call stack)) :
    Action.Uniform ρ (withinRoom stack f call) := by
  refine (Action.Uniform.read fun h => h.stackIn?_rename ρ stack f).bind fun inside => ?_
  cases inside with
  | none => exact raiseTooDeep_uniform
  | some stack => exact hcall stack

/-- However many calls may nest, what they do does not depend on the names of realms. -/
theorem nestedEvaluator_uniform (n : Nat) (stack : Stack) :
    (nestedEvaluator n stack).Uniform ρ := by
  induction n generalizing stack with
  | zero => exact bodyEvaluator_uniform (noCalls_uniform stack) _
  | succ n ih =>
      refine bodyEvaluator_uniform ⟨fun _ _ => raiseTooDeep_uniform,
        fun _ _ => raiseTooDeep_uniform, ?_, ?_, fun _ _ => rfl⟩ _
      · exact fun f receiver vs => withinRoom_uniform stack f fun stack' =>
          callRule_uniform (ih stack') f receiver vs
      · exact fun f vs => withinRoom_uniform stack f fun stack' =>
          constructRule_uniform (ih stack') f vs

theorem evaluator_uniform (stack : Stack) : (evaluator stack).Uniform ρ :=
  nestedEvaluator_uniform stack.room stack

/-! ## Scripts -/

theorem checkGlobal_uniform (d : Name × GlobalKind) : Action.Uniform ρ (checkGlobal d) := by
  -- The global object is read as a whole, but what is looked at is not renamed.
  refine .read_bind fun h => ?_
  rw [h.object_rename]
  refine (Action.Uniform.read fun _ => rfl).bind fun s => ?_
  dsimp only
  split
  · exact .ite (raiseAbout_uniform _ _ _ _) (.pure _)
  · exact .ite (raiseAbout_uniform _ _ _ _) (.ite (raiseAbout_uniform _ _ _ _) (.pure _))
  · exact .ite (raiseAbout_uniform _ _ _ _) (.ite (raiseAbout_uniform _ _ _ _) (.pure _))

theorem makeGlobal_uniform (d : Name × GlobalKind) : Action.Uniform ρ (makeGlobal d) := by
  unfold makeGlobal
  split
  · exact .modifyScope _ _
  · refine .modify _ fun o => ?_
    rw [o.own?_rename, o.rename_put, apply_ite (Object.rename ρ)]
  · exact .pure _

theorem makeGlobalFunction_uniform (env : Env) (f : Lambda) :
    Action.Uniform ρ (makeGlobalFunction env f) :=
  (makeFunction_uniform env f).bind fun _ => .modify _ fun o => o.rename_put ρ _ _

theorem declareGlobals_uniform (env : Env) (body : List Stmt) :
    Action.Uniform ρ (declareGlobals env body) := by
  refine (Action.Uniform.each checkGlobal_uniform _).bind fun _ => ?_
  refine (Action.Uniform.each makeGlobal_uniform _).bind fun _ => ?_
  exact (Action.Uniform.each (makeGlobalFunction_uniform env) _).bind fun _ => .pure _

theorem runProgram_uniform (stack : Stack) (body : List Stmt) :
    Action.Uniform ρ (runProgram stack body) := by
  refine framed_uniform _ ((Action.Uniform.allocateScope _).bind fun r => ?_)
  refine (declareGlobals_uniform _ body).bind fun _ => ?_
  exact (runAll_uniform (evaluator_uniform _) _ body).bind fun _ => noted_uniform _

end ScriptHost.Script
