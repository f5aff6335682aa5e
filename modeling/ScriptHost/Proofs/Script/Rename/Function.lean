import ScriptHost.Proofs.Script.Rename.Property

/-!
# Functions and calls do not depend on the names of realms

The one place where a key is used is the call of a host function, and there it is handed to the
host as it is.  A function that is made is one of the program or a bound one; of the function
that is bound it only matters whether it constructs.
-/

namespace ScriptHost.Script

variable {ρ : UInt32 → UInt32} {α : Type} {ev : Evaluator}

/-! ## Making functions -/

theorem functionScope_rename (h : Heap) (f : Lambda) (scope : ScopeRef) (self : ObjectRef) :
    functionScope (h.rename ρ) f scope self =
      ((functionScope h f scope self).1, (functionScope h f scope self).2.rename ρ) := by
  unfold functionScope
  split <;> rfl

theorem rename_instancePrototype (f : Lambda) (self : ObjectRef) :
    (instancePrototype f self).rename ρ = instancePrototype f self := by
  unfold instancePrototype
  split <;> rfl

theorem makeFunction_uniform (env : Env) (f : Lambda) :
    Action.Uniform ρ (makeFunction env f) := by
  refine .update fun h => ?_
  simp only [Heap.size_objects_rename, functionScope_rename]
  generalize functionScope h f env.scope h.objects.size = made
  obtain ⟨scope, h'⟩ := made
  dsimp only
  generalize (if hasPrototype f = true then _ else _ : List (Key × Property)) = properties
  have hself := h'.rename_allocate_of_eq ρ (o := .make (.function (.closure f scope env.receiver))
    (some Place.functionPrototype) properties) rfl
  rw [hself]
  generalize h'.allocate _ = made'
  obtain ⟨r, h''⟩ := made'
  have hprototype := h''.rename_allocate_of_eq ρ (rename_instancePrototype f r)
  simp only [hprototype, apply_ite (Heap.rename ρ)]

/-! ## Entering a body -/

theorem declareLexical_uniform (r : ScopeRef) (body : List Stmt) :
    Action.Uniform ρ (declareLexical r body) :=
  .modifyScope r _

theorem declareFunctions_uniform (env : Env) (body : List Stmt) :
    Action.Uniform ρ (declareFunctions env body) := by
  refine (Action.Uniform.each (fun f => ?_) _).bind fun _ => .pure _
  exact (makeFunction_uniform env f).bind fun v => .modifyScope _ _

theorem argumentsObject_uniform (vs : List Val) : Action.Uniform ρ (argumentsObject vs) :=
  .allocate (Object.rename_fill ρ _ 0 _).symm

theorem enterBody_uniform (f : Lambda) (scope : ScopeRef) (receiver : Val) (vs : List Val) :
    Action.Uniform ρ (enterBody f scope receiver vs) := by
  unfold enterBody
  extract_lets -underBinder enter
  have henter (own : List (Name × Binding)) : Action.Uniform ρ (enter own) := by
    refine (Action.Uniform.allocateScope _).bind fun r => ?_
    exact (declareLexical_uniform r f.body).bind fun _ =>
      (declareFunctions_uniform _ f.body).bind fun _ => .pure _
  refine .ite ((Action.Uniform.pure _).bind henter) ?_
  exact (argumentsObject_uniform vs).bind fun a => (Action.Uniform.pure _).bind henter

theorem runAll_uniform (hev : ev.Uniform ρ) (env : Env) (body : List Stmt) :
    Action.Uniform ρ (runAll ev env body) := by
  induction body with
  | nil => exact .pure _
  | cons s rest ih =>
      refine (hev.stmt env s).bind fun flow => ?_
      cases flow with
      | next => exact ih
      | _ => exact .pure _

theorem runBody_uniform (hev : ev.Uniform ρ) (f : Lambda) (scope : ScopeRef) (receiver : Val)
    (vs : List Val) : Action.Uniform ρ (runBody ev f scope receiver vs) := by
  refine (enterBody_uniform f scope receiver vs).bind fun env => ?_
  refine (runAll_uniform hev env f.body).bind fun flow => ?_
  cases flow <;> exact .pure _

theorem newPromise_uniform : Action.Uniform ρ newPromise := newObject_uniform rfl _ _

theorem prototypeFor_uniform (hev : ev.Uniform ρ) (f : Val) (default : ObjectRef) :
    Action.Uniform ρ (prototypeFor ev f default) := by
  refine (getProperty_uniform hev f _).bind fun p => ?_
  cases p <;> exact .pure _

theorem callClosure_uniform (hev : ev.Uniform ρ) (self : Val) (f : Lambda) (scope : ScopeRef)
    (receiver : Val) (vs : List Val) :
    Action.Uniform ρ (callClosure ev self f scope receiver vs) := by
  unfold callClosure
  split
  · exact runBody_uniform hev f scope receiver vs
  · exact (runBody_uniform hev f scope receiver vs).outcome.bind fun _ => newPromise_uniform
  · exact (prototypeFor_uniform hev self _).bind fun p => newObject_uniform rfl p []

theorem constructClosure_uniform (hev : ev.Uniform ρ) (self : Val) (f : Lambda)
    (scope : ScopeRef) (vs : List Val) :
    Action.Uniform ρ (constructClosure ev self f scope vs) := by
  refine (prototypeFor_uniform hev self _).bind fun p => ?_
  refine (newObject_uniform rfl p []).bind fun receiver => ?_
  refine (runBody_uniform hev f scope receiver vs).bind fun v => ?_
  cases v <;> exact .pure _

/-! ## Host functions -/

theorem raiseFailed_uniform (hev : ev.Uniform ρ) (message : String) :
    Action.Uniform ρ (raiseFailed ev message) := by
  refine (newObject_uniform rfl _ []).bind fun e => ?_
  exact (setProperty_uniform hev e _ _).bind fun _ => .raise e

/-- The host is asked for the renamed function. -/
theorem callNative_renames (hev : ev.Uniform ρ) (k : NativeKey) (vs : List Val) :
    Action.Renames ρ (callNative ev k vs) (callNative ev (k.rename ρ) vs) := by
  refine fun h => .host h ⟨k, vs, ev.stack⟩ fun next reply => ?_
  cases reply with
  | returned v => exact Action.Uniform.pure v next
  | thrown v => exact Action.Uniform.raise v next
  | failed message => exact raiseFailed_uniform hev message next
  | tooDeep => exact raiseTooDeep_uniform next

/-! ## Objects -/

theorem toObject_uniform (v : Val) : Action.Uniform ρ (toObject v) := by
  unfold toObject
  split
  · exact .pure _
  · exact raiseNoObject_uniform
  · exact raiseNoObject_uniform
  · exact newObject_uniform rfl _ _
  · exact newObject_uniform rfl _ _

theorem objectKeys_uniform (v : Val) : Action.Uniform ρ (objectKeys v) := by
  refine (toObject_uniform v).bind fun o => ?_
  split
  · rename_i r
    exact (readObject_uniform (f := Object.listedNames) r fun _ => rfl).bind fun _ =>
      newArray_uniform _
  · exact newArray_uniform _

theorem objectFreeze_uniform (v : Val) : Action.Uniform ρ (objectFreeze v) := by
  unfold objectFreeze
  split
  · refine Action.Uniform.bind (.modify _ fun o => ?_) fun _ => .pure _
    rfl
  · exact .pure _

theorem described_uniform (hev : ev.Uniform ρ) (d : Val) (name : String) :
    Action.Uniform ρ (described ev d name) := by
  unfold described
  split
  · refine (Action.Uniform.read fun h => by rw [h.findProperty?_rename]).bind fun found => ?_
    exact .ite ((getProperty_uniform hev _ _).bind fun _ => .pure _) (.pure _)
  · exact .pure _

theorem describedFunction_uniform (hev : ev.Uniform ρ) (d : Val) (name complaint : String) :
    Action.Uniform ρ (describedFunction ev d name complaint) := by
  refine ((described_uniform hev d name).recover fun _ => raiseError_uniform _ _).bind fun f => ?_
  refine (Action.Uniform.read fun h => ?_).bind fun bad => ?_
  · simp only [h.isCallable_rename]
  · exact .ite (raiseError_uniform _ _) (.pure _)

theorem readDescription_uniform (hev : ev.Uniform ρ) (d : Val) :
    Action.Uniform ρ (readDescription ev d) := by
  unfold readDescription
  split
  · refine (described_uniform hev _ _).bind fun enumerable => ?_
    refine (described_uniform hev _ _).bind fun configurable => ?_
    refine (described_uniform hev _ _).bind fun value => ?_
    refine (described_uniform hev _ _).bind fun writable => ?_
    refine (describedFunction_uniform hev _ _ _).bind fun getter => ?_
    refine (describedFunction_uniform hev _ _ _).bind fun setter => ?_
    exact .ite (raiseError_uniform _ _) (.pure _)
  · exact raiseError_uniform _ _

theorem raiseNotConfigurable_uniform : Action.Uniform ρ (raiseNotConfigurable : Action α) :=
  raiseError_uniform _ _

theorem defineLength_uniform (hev : ev.Uniform ρ) (r : ObjectRef) (p : Property)
    (d : Description) : Action.Uniform ρ (defineLength ev r p d) := by
  unfold defineLength
  extract_lets -underBinder define
  have hdefine (n : Option Nat) : Action.Uniform ρ (define n) := by
    refine .ite ?_ raiseNotConfigurable_uniform
    extract_lets -underBinder finish
    have hfinish (o : Outcome Unit) : Action.Uniform ρ (finish o) := by
      refine .ite ?_ (.ofOutcome o)
      exact (Action.Uniform.modify r fun o => o.rename_put ρ _ _).bind fun _ => .ofOutcome o
    split
    · exact (assignLength_uniform hev r _).outcome.bind hfinish
    · exact (Action.Uniform.pure _).bind hfinish
  split
  · exact (toArrayLength_uniform hev _).bind fun _ => (Action.Uniform.pure _).bind hdefine
  · exact (Action.Uniform.pure _).bind hdefine

theorem defineNew_uniform (r : ObjectRef) (k : Key) (d : Description) :
    Action.Uniform ρ (defineNew r k d) := by
  refine (readObject_uniform (f := fun o =>
    o.isArray && !o.lengthIsWritable && k.index?.any fun i => o.arrayLength ≤ i) r fun o => by
      rw [o.isArray_rename]; rfl).bind fun behindEnd => ?_
  refine (readObject_uniform (f := Object.extensible) r fun _ => rfl).bind fun extensible => ?_
  refine .ite (raiseError_uniform _ _) (.ite (raiseError_uniform _ _) ?_)
  exact .modify r fun o => o.rename_define ρ k _

theorem objectDefineProperty_uniform (hev : ev.Uniform ρ) (v k d : Val) :
    Action.Uniform ρ (objectDefineProperty ev v k d) := by
  unfold objectDefineProperty
  split
  · rename_i r
    refine (toKey_uniform hev k).bind fun k => (readDescription_uniform hev d).bind fun d => ?_
    refine (readObject_uniform (f := fun o => o.own? k) r fun _ => rfl).bind fun found => ?_
    refine (readObject_uniform r fun o => o.isArray_rename ρ).bind fun isArray => ?_
    split
    · exact (defineNew_uniform r k d).bind fun _ => .pure _
    · refine .ite ((defineLength_uniform hev r _ d).bind fun _ => .pure _) (.ite ?_ ?_)
      · exact (Action.Uniform.modify r fun o => o.rename_define ρ k _).bind fun _ => .pure _
      · exact raiseNotConfigurable_uniform
  · exact raiseError_uniform _ _

theorem prototypeValue_uniform (v : Val) {missing : Action Val} (hmissing : missing.Uniform ρ) :
    Action.Uniform ρ (prototypeValue v missing) := by
  unfold prototypeValue
  split
  · refine .read fun h => ?_
    rw [h.object_rename]
    rfl
  · split
    · exact .pure _
    · exact hmissing

theorem setPrototype_uniform (r : ObjectRef) (p : Option ObjectRef) :
    Action.Uniform ρ (setPrototype r p) := by
  -- The object is read as a whole, but what is looked at is not renamed.
  refine .read_bind fun h => ?_
  rw [h.object_rename]
  change Action.Uniform ρ (do
    let circular ← Action.read fun h => p.any fun q => q == r || h.inherits q r
    if (h.object r).prototype = p then pure ()
    else if r = Place.objectPrototype then
      raiseError .type (text ("'Immutable prototype object 'Object.prototype' cannot have their " ++
        "prototype set'"))
    else if !(h.object r).extensible then raiseError .type (text "object is not extensible")
    else if circular then raiseError .type (text "circular prototype chain")
    else Action.change fun h => h.modify r fun o => { o with prototype := p })
  refine (Action.Uniform.read fun h => ?_).bind fun circular => ?_
  · simp only [h.inherits_rename]
  · refine .ite (.pure _) (.ite (raiseError_uniform _ _) (.ite (raiseError_uniform _ _) ?_))
    exact .ite (raiseError_uniform _ _) (.modify r fun _ => rfl)

theorem assignPrototype_uniform (target v : Val) :
    Action.Uniform ρ (assignPrototype target v) := by
  unfold assignPrototype
  split
  · exact raiseError_uniform _ _
  · exact raiseError_uniform _ _
  · exact (setPrototype_uniform _ _).bind fun _ => .pure _
  · exact .pure _

theorem objectCreate_uniform (p : Val) : Action.Uniform ρ (objectCreate p) := by
  unfold objectCreate
  split
  · exact .allocate rfl
  · exact raiseError_uniform _ _

theorem objectHasOwnProperty_uniform (hev : ev.Uniform ρ) (receiver k : Val) :
    Action.Uniform ρ (objectHasOwnProperty ev receiver k) := by
  refine (toKey_uniform hev k).bind fun k => (toObject_uniform receiver).bind fun o => ?_
  split
  · rename_i r
    exact readObject_uniform (f := fun o => Val.bool (o.own? k).isSome) r fun _ => rfl
  · exact .pure _

theorem objectToString_uniform (hev : ev.Uniform ρ) (receiver : Val) :
    Action.Uniform ρ (objectToString ev receiver) := by
  unfold objectToString
  split
  · exact .pure _
  · exact .pure _
  · refine (toObject_uniform _).bind fun o => (Action.Uniform.read fun h => ?_).bind fun word => ?_
    · cases o with
      | object r =>
          simp only [h.object_rename, Object.kind_rename, ObjectKind.word_rename]
      | _ => rfl
    · exact (getProperty_uniform hev o _).bind fun _ => .pure _

/-! ## Functions on functions -/

theorem listValues_uniform (hev : ev.Uniform ρ) (v : Val) :
    Action.Uniform ρ (listValues ev v) := by
  unfold listValues
  split
  · exact .pure _
  · exact .pure _
  · refine (getProperty_uniform hev _ _).bind fun n => (toDouble_uniform hev n).bind fun n => ?_
    exact .ite (raiseError_uniform _ _) (.each (fun i => getProperty_uniform hev _ _) _)
  · exact raiseError_uniform _ _

theorem bindFunction_uniform (hev : ev.Uniform ρ) (f : Val) (vs : List Val) :
    Action.Uniform ρ (bindFunction ev f vs) := by
  refine .read_bind fun h => ?_
  rw [h.callable?_rename]
  cases h.callable? f with
  | none => exact raiseError_uniform _ _
  | some c =>
      cases f with
      | object r =>
          simp only [Option.map_some, Callable.constructs_rename]
          refine (getProperty_uniform hev _ _).bind fun n => ?_
          exact (getProperty_uniform hev _ _).bind fun name => newObject_uniform rfl _ _
      | _ => exact raiseError_uniform _ _

theorem functionToString_uniform (hev : ev.Uniform ρ) (f : Val) :
    Action.Uniform ρ (functionToString ev f) := by
  have hname : Action.Uniform ρ (do
      let name ← getProperty ev f (key "name")
      let name ← if name = .undefined then pure [] else toUnits ev name
      pure (Val.string (text "function " ++ name ++ text "() \x7b\n    [native code]\n\x7d"))) :=
    (getProperty_uniform hev f _).bind fun name =>
      .default_bind (toUnits_uniform hev name) fun _ => .pure _
  refine .read_bind fun h => ?_
  rw [h.callable?_rename]
  cases h.callable? f with
  | none => exact raiseError_uniform _ _
  | some c =>
      cases c with
      | closure lambda scope receiver => exact Action.Uniform.pure _
      | _ => exact hname

end ScriptHost.Script
