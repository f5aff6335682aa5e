import ScriptHost.Proofs.Script.Rename

/-!
# Errors, properties, conversions and operators do not depend on the names of realms

What is read from an object here is its properties and its prototype, and whether it can be
called; none of that is renamed.  Nothing is made that has a name of a realm in it.
-/

namespace ScriptHost.Script

variable {ρ : UInt32 → UInt32} {α : Type} {ev : Evaluator}

/-! ## Errors -/

theorem newError_uniform (t : ErrorType) (message stack : Option Units) :
    Action.Uniform ρ (newError t message stack) :=
  .allocate rfl

theorem raiseError_uniform (t : ErrorType) (message : Units) :
    Action.Uniform ρ (raiseError t message : Action α) :=
  (newError_uniform t _ _).bind fun _ => .raise _

theorem raiseTooDeep_uniform : Action.Uniform ρ (raiseTooDeep : Action α) := raiseError_uniform _ _

theorem raiseAbout_uniform (t : ErrorType) (front : String) (n : Units) (back : String) :
    Action.Uniform ρ (raiseAbout t front n back : Action α) :=
  raiseError_uniform _ _

theorem raiseAboutKey_uniform (t : ErrorType) (front : String) (k : Key) (back : String) :
    Action.Uniform ρ (raiseAboutKey t front k back : Action α) :=
  (Action.Uniform.read fun _ => rfl).bind fun _ => raiseAbout_uniform t front _ back

theorem reserve_uniform (hev : ev.Uniform ρ) (bytes : Nat) :
    Action.Uniform ρ (reserve ev bytes) :=
  (Action.Uniform.read fun h => hev.grants h bytes).bind fun _ =>
    .ite (.pure _) (raiseError_uniform _ _)

theorem newString_uniform (hev : ev.Uniform ρ) (s : Units) :
    Action.Uniform ρ (newString ev s) :=
  (reserve_uniform hev _).bind fun _ => .pure _

theorem traced_uniform (stack : Stack) (v : Val) : Action.Uniform ρ (traced stack v) := by
  unfold traced
  split
  · refine .change fun h => ?_
    simp only [Heap.object_rename, Object.isError_rename, Object.extensible_rename,
      Object.own?_rename, Object.rename_put, Heap.rename_setObject, apply_ite (Heap.rename ρ)]
  · exact .pure _

theorem framed_uniform (stack : Stack) {x : Action α} (hx : x.Uniform ρ) :
    Action.Uniform ρ (framed stack x) :=
  hx.recover fun v => (traced_uniform stack v).bind fun _ => .raise v

/-! ## Properties -/

theorem Slot.value_uniform (hev : ev.Uniform ρ) (receiver : Val) (s : Slot) :
    Action.Uniform ρ (s.value ev receiver) := by
  unfold Slot.value
  split
  · exact .pure _
  · exact .pure _
  · exact hev.call _ _ _

theorem getProperty_uniform (hev : ev.Uniform ρ) (v : Val) (k : Key) :
    Action.Uniform ρ (getProperty ev v k) := by
  unfold getProperty
  split
  · exact raiseAboutKey_uniform _ _ _ _
  · dsimp only
    split
    · exact .pure _
    · refine (Action.Uniform.read fun h => h.findProperty?_rename ρ _ _).bind fun found => ?_
      split
      · exact Slot.value_uniform hev _ _
      · exact .pure _

theorem newObject_uniform {kind : ObjectKind} (hkind : kind.rename ρ = kind)
    (prototype : ObjectRef) (properties : List (Key × Property)) :
    Action.Uniform ρ (newObject kind prototype properties) :=
  .allocate (congrArg (fun kind => Object.make kind (some prototype) properties) hkind)

theorem newSparseArray_uniform (vs : List (Option Val)) :
    Action.Uniform ρ (newSparseArray vs) :=
  .allocate (Object.rename_fill ρ _ 0 vs).symm

theorem newArray_uniform (vs : List Val) : Action.Uniform ρ (newArray vs) :=
  newSparseArray_uniform _

/-! ## Conversions -/

theorem isCallable_uniform (f : Val) : Action.Uniform ρ (Action.read fun h => h.isCallable f) :=
  .read fun h => h.isCallable_rename ρ f

theorem firstPrimitive_uniform (hev : ev.Uniform ρ) (v : Val) (ms : List String) :
    Action.Uniform ρ (firstPrimitive ev v ms) := by
  induction ms with
  | nil => exact raiseError_uniform _ _
  | cons m rest ih =>
      refine (getProperty_uniform hev v _).bind fun f => (isCallable_uniform f).bind fun _ => ?_
      refine .ite ?_ ih
      exact (hev.call f v []).bind fun x => .ite ih (.pure _)

theorem toPrimitive_uniform (hev : ev.Uniform ρ) (p : Preference) (v : Val) :
    Action.Uniform ρ (toPrimitive ev p v) :=
  .ite (firstPrimitive_uniform hev v _) (.pure _)

theorem toUnits_uniform (hev : ev.Uniform ρ) (v : Val) : Action.Uniform ρ (toUnits ev v) := by
  refine (toPrimitive_uniform hev _ v).bind fun x => ?_
  split
  · exact .pure _
  · exact raiseError_uniform _ _

theorem toNumeric_uniform (hev : ev.Uniform ρ) (v : Val) : Action.Uniform ρ (toNumeric ev v) := by
  refine (toPrimitive_uniform hev _ v).bind fun x => ?_
  split <;> first
    | exact .pure _
    | exact raiseError_uniform _ _

theorem toDouble_uniform (hev : ev.Uniform ρ) (v : Val) : Action.Uniform ρ (toDouble ev v) :=
  (toNumeric_uniform hev v).bind fun _ => .pure _

theorem toKey_uniform (hev : ev.Uniform ρ) (v : Val) : Action.Uniform ρ (toKey ev v) := by
  refine (toPrimitive_uniform hev _ v).bind fun x => ?_
  split <;> exact .pure _

theorem looselyEqualPrimitives_uniform (hev : ev.Uniform ρ) (a b : Val) :
    Action.Uniform ρ (looselyEqualPrimitives ev a b) := by
  unfold looselyEqualPrimitives
  split
  · exact .pure _
  · exact .pure _
  · exact (toDouble_uniform hev _).bind fun _ => .pure _
  · exact (toDouble_uniform hev _).bind fun _ => .pure _
  · exact (toDouble_uniform hev _).bind fun _ => (toDouble_uniform hev _).bind fun _ => .pure _

theorem looselyEqual_uniform (hev : ev.Uniform ρ) (a b : Val) :
    Action.Uniform ρ (looselyEqual ev a b) := by
  refine Action.Uniform.bind (.read fun h => ?_) fun same => ?_
  · change ((h.rename ρ).typeName a == (h.rename ρ).typeName b || _) = _
    rw [h.typeName_rename, h.typeName_rename]
    rfl
  · refine .ite (.pure _) (.ite (.pure _) ?_)
    refine (toPrimitive_uniform hev _ a).bind fun x =>
      (toPrimitive_uniform hev _ b).bind fun y => ?_
    split
    · exact .pure _
    · exact looselyEqualPrimitives_uniform hev _ _

/-! ## Operators -/

theorem divideValues_uniform (hev : ev.Uniform ρ) (a b : Val) :
    Action.Uniform ρ (divideValues ev a b) := by
  unfold divideValues
  split
  · exact .pure _
  · exact (toNumeric_uniform hev _).bind fun _ => (toNumeric_uniform hev _).bind fun _ => .pure _

theorem addValues_uniform (hev : ev.Uniform ρ) (a b : Val) :
    Action.Uniform ρ (addValues ev a b) := by
  refine (toPrimitive_uniform hev _ a).bind fun x => (toPrimitive_uniform hev _ b).bind fun y => ?_
  refine .ite ?_ ?_
  · exact (toUnits_uniform hev x).bind fun _ => (toUnits_uniform hev y).bind fun _ =>
      newString_uniform hev _
  · exact (toNumeric_uniform hev x).bind fun _ => (toNumeric_uniform hev y).bind fun _ => .pure _

theorem compareValues_uniform (hev : ev.Uniform ρ) (op : BinaryOp) (a b : Val) :
    Action.Uniform ρ (compareValues ev op a b) := by
  refine (toPrimitive_uniform hev _ a).bind fun x => (toPrimitive_uniform hev _ b).bind fun y => ?_
  split
  · exact .pure _
  · exact (toDouble_uniform hev _).bind fun _ => (toDouble_uniform hev _).bind fun _ => .pure _

theorem isInstance_uniform (hev : ev.Uniform ρ) (v c : Val) :
    Action.Uniform ρ (isInstance ev v c) := by
  refine (isCallable_uniform c).bind fun callable => ?_
  split
  · refine (Action.Uniform.read fun h => h.unbound_rename ρ _).bind fun target => ?_
    split
    · refine (getProperty_uniform hev _ _).bind fun p => ?_
      split
      · exact .read fun h => h.inherits_rename ρ _ _
      · exact raiseError_uniform _ _
    · exact .pure _
  · exact raiseError_uniform _ _

theorem hasProperty_uniform (hev : ev.Uniform ρ) (k v : Val) :
    Action.Uniform ρ (hasProperty ev k v) := by
  unfold hasProperty
  split
  · refine (toKey_uniform hev k).bind fun k => .read fun h => ?_
    rw [h.findProperty?_rename]
  · exact raiseError_uniform _ _

theorem applyBinary_uniform (hev : ev.Uniform ρ) (op : BinaryOp) (a b : Val) :
    Action.Uniform ρ (applyBinary ev op a b) := by
  have harithmetic : Action.Uniform ρ (do
      let m ← toNumeric ev a
      let n ← toNumeric ev b
      pure (arithmetic op m n)) :=
    (toNumeric_uniform hev a).bind fun _ => (toNumeric_uniform hev b).bind fun _ => .pure _
  have hcompare : Action.Uniform ρ (do
      let r ← compareValues ev op a b
      pure (Val.bool r)) :=
    (compareValues_uniform hev op a b).bind fun _ => .pure _
  cases op with
  | add => exact addValues_uniform hev a b
  | div => exact divideValues_uniform hev a b
  | sub => exact harithmetic
  | mul => exact harithmetic
  | rem => exact harithmetic
  | less => exact hcompare
  | lessEq => exact hcompare
  | greater => exact hcompare
  | greaterEq => exact hcompare
  | identical => exact .pure _
  | different => exact .pure _
  | equal => exact (looselyEqual_uniform hev a b).bind fun _ => .pure _
  | unequal => exact (looselyEqual_uniform hev a b).bind fun _ => .pure _
  | instanceOf => exact (isInstance_uniform hev a b).bind fun _ => .pure _
  | member => exact (hasProperty_uniform hev a b).bind fun _ => .pure _

theorem applyUnary_uniform (hev : ev.Uniform ρ) (op : UnaryOp) (v : Val) :
    Action.Uniform ρ (applyUnary ev op v) := by
  cases op with
  | plus => exact toNumeric_uniform hev v
  | minus =>
      simp only [applyUnary]
      split
      · exact .pure _
      · exact (toNumeric_uniform hev _).bind fun _ => .pure _
  | not => exact .pure _
  | typeOf =>
      refine .read fun h => ?_
      rw [h.typeName_rename]
  | discard => exact .pure _

/-! ## Writing and removing properties -/

theorem raiseBadLength_uniform : Action.Uniform ρ (raiseBadLength : Action α) :=
  raiseError_uniform _ _

theorem lengthOfDouble_uniform (x : Double) : Action.Uniform ρ (lengthOfDouble x) := by
  unfold lengthOfDouble
  split
  · exact .ite (.pure _) raiseBadLength_uniform
  · exact raiseBadLength_uniform

theorem toArrayLength_uniform (hev : ev.Uniform ρ) (v : Val) :
    Action.Uniform ρ (toArrayLength ev v) := by
  unfold toArrayLength
  split
  · exact .pure _
  · exact .pure _
  · exact lengthOfDouble_uniform _
  · exact lengthOfDouble_uniform _
  · refine (toDouble_uniform hev _).bind fun x => (toDouble_uniform hev _).bind fun y => ?_
    exact (lengthOfDouble_uniform y).bind fun n => .ite (.pure _) raiseBadLength_uniform

/-- Something is read from an object that is not renamed with it. -/
theorem readObject_uniform (r : ObjectRef) {f : Object → α} (hf : ∀ o, f (o.rename ρ) = f o) :
    Action.Uniform ρ (Action.read fun h => f (h.object r)) :=
  .read fun h => by rw [h.object_rename, hf]

theorem assignLength_uniform (hev : ev.Uniform ρ) (r : ObjectRef) (v : Val) :
    Action.Uniform ρ (assignLength ev r v) := by
  refine (toArrayLength_uniform hev v).bind fun n => ?_
  refine (readObject_uniform r fun o => o.lengthIsWritable_rename ρ).bind fun writable => ?_
  refine .ite (raiseError_uniform _ _) ?_
  refine (readObject_uniform (f := fun o => o.leastLength n) r fun _ => rfl).bind fun least => ?_
  refine (Action.Uniform.modify r fun o => o.rename_truncate ρ n).bind fun _ => ?_
  exact .ite (raiseError_uniform _ _) (.pure _)

theorem callSetter_uniform (hev : ev.Uniform ρ) (setter receiver v : Val) :
    Action.Uniform ρ (callSetter ev setter receiver v) := by
  unfold callSetter
  split
  · exact raiseError_uniform _ _
  · exact (hev.call _ _ _).bind fun _ => .pure _

theorem reserveProperty_uniform (hev : ev.Uniform ρ) (r : ObjectRef) :
    Action.Uniform ρ (reserveProperty ev r) :=
  (readObject_uniform (f := fun o => o.elements.size) r fun _ => rfl).bind fun _ =>
    .ite (.pure _) (reserve_uniform hev _)

theorem addProperty_uniform (hev : ev.Uniform ρ) (r : ObjectRef) (k : Key) (v : Val) :
    Action.Uniform ρ (addProperty ev r k v) := by
  refine (readObject_uniform (f := fun o => o.refusal? k) r fun o =>
    o.refusal?_rename ρ k).bind fun refusal => ?_
  split
  · exact raiseError_uniform _ _
  · refine (reserveProperty_uniform hev r).bind fun _ => ?_
    exact .modify r fun o => o.rename_define ρ k _

theorem storeProperty_uniform (r : ObjectRef) (k : Key) (enumerable configurable : Bool)
    (v : Val) : Action.Uniform ρ (storeProperty r k enumerable configurable v) :=
  .modify r fun o => o.rename_put ρ k _

theorem setPropertyOr_uniform (hev : ev.Uniform ρ) {add : ObjectRef → Action Unit}
    (hadd : ∀ r, Action.Uniform ρ (add r)) (target : Val) (k : Key) (v : Val) :
    Action.Uniform ρ (setPropertyOr ev add target k v) := by
  unfold setPropertyOr
  split
  · exact raiseAboutKey_uniform _ _ _ _
  · rename_i r _
    refine (Action.Uniform.read fun h => h.findProperty?_rename ρ _ _).bind fun found => ?_
    refine (readObject_uniform (f := fun o =>
      target == .object r && k == key "length" && o.isArray) r fun o => by
        rw [o.isArray_rename]).bind fun ownLength => ?_
    split
    · refine .ite (assignLength_uniform hev r v) (.ite (raiseAboutKey_uniform _ _ _ _) ?_)
      exact .ite (raiseError_uniform _ _) (.ite (storeProperty_uniform _ _ _ _ _) (hadd r))
    · exact callSetter_uniform hev _ _ _
    · exact .ite (raiseError_uniform _ _) (hadd r)

theorem setProperty_uniform (hev : ev.Uniform ρ) (target : Val) (k : Key) (v : Val) :
    Action.Uniform ρ (setProperty ev target k v) :=
  setPropertyOr_uniform hev (fun r => addProperty_uniform hev r k v) target k v

theorem raiseNoObject_uniform : Action.Uniform ρ (raiseNoObject : Action α) :=
  raiseError_uniform _ _

theorem raiseUndeletable_uniform : Action.Uniform ρ (raiseUndeletable : Action α) :=
  raiseError_uniform _ _

theorem removeProperty_uniform (target : Val) (k : Key) :
    Action.Uniform ρ (removeProperty target k) := by
  unfold removeProperty
  split
  · exact raiseNoObject_uniform
  · exact raiseNoObject_uniform
  · exact .ite raiseUndeletable_uniform (.pure _)
  · rename_i r
    refine (readObject_uniform (f := fun o => o.own? k) r fun _ => rfl).bind fun found => ?_
    split
    · exact .pure _
    · refine .ite ?_ raiseUndeletable_uniform
      exact (Action.Uniform.modify r fun o => o.rename_erase ρ k).bind fun _ => .pure _
  · exact .pure _

end ScriptHost.Script
