import ScriptHost.Proofs.Script.Conduct

/-!
# Errors, properties, conversions and operators conduct themselves

Throwing an error makes an object at one of the fixed places' prototypes.  Reading a
property may call a getter, which the heap holds and which is therefore sound.  A
conversion may call methods of an object, and ends in a primitive value; operators only
convert.
-/

namespace ScriptHost.Script

variable {R : RefRule} {h : Heap} {α : Type} {P : Post α}

/-! ## Errors -/

theorem errorProperties_sound {message stack : Option Units} {n : Nat} :
    ∀ e ∈ errorProperties message stack, e.2.Sound R n := by
  intro e he
  simp only [errorProperties, List.mem_append, Option.mem_toList, Option.map_eq_some_iff] at he
  rcases he with ⟨s, -, rfl⟩ | ⟨s, -, rfl⟩ <;> trivial

theorem newError_conducts (t : ErrorType) (message stack : Option Units) :
    Action.Conducts R h (.val R) (newError t message stack) := by
  refine .here fun h' _ hs => .allocate (fun k hk => by cases hk) ?_
  refine Object.sound_make trivial (fun p hp => ?_) errorProperties_sound
  cases hp
  exact hs.errorPlace t

theorem raiseError_conducts (t : ErrorType) (message : Units) :
    Action.Conducts R h P (raiseError t message) :=
  (newError_conducts t _ _).bind fun _ _ _ _ he => .raise he

theorem raiseTooDeep_conducts : Action.Conducts R h P (raiseTooDeep : Action α) :=
  raiseError_conducts _ _

theorem raiseAbout_conducts (t : ErrorType) (front : String) (n : Units) (back : String) :
    Action.Conducts R h P (raiseAbout t front n back) :=
  raiseError_conducts _ _

theorem raiseAboutKey_conducts (t : ErrorType) (front : String) (k : Key) (back : String) :
    Action.Conducts R h P (raiseAboutKey t front k back) :=
  .read_bind fun _ _ _ => raiseAbout_conducts t front _ back

theorem reserve_conducts (ev : Evaluator) (bytes : Nat) :
    Action.Conducts R h .any (reserve ev bytes) :=
  .read_bind fun _ _ _ => .ite (fun _ => .pure trivial) fun _ => raiseError_conducts _ _

theorem newString_conducts (ev : Evaluator) (s : Units) :
    Action.Conducts R h (.val R) (newString ev s) :=
  (reserve_conducts ev _).bind fun _ _ _ _ _ => .pure trivial

theorem traced_conducts (stack : Stack) (v : Val) :
    Action.Conducts R h .any (traced stack v) := by
  unfold traced
  split
  · rename_i r
    refine .change fun h' _ hs => ?_
    dsimp only
    split
    · rw [h'.setObject_eq_modify r fun o =>
        o.put (key "stack") (Property.hidden (.string stack.trace))]
      exact ⟨.modify h' r fun o => (o.shape_put _ _).kind, hs.modify r fun o ho => ho.put _ trivial⟩
    · exact ⟨.refl h', hs⟩
  · exact .pure trivial

theorem framed_conducts (stack : Stack) {x : Action α} (hx : Action.Conducts R h P x) :
    Action.Conducts R h P (framed stack x) :=
  hx.recover fun _ v _ _ hv =>
    (traced_conducts stack v).bind fun _ _ hl _ _ => .raise (hv.mono hl.size_le)

/-! ## Numbers as values -/

theorem Val.sound_ofNumber (x : Double) {n : Nat} : (Val.ofNumber x).Sound R n := by
  unfold Val.ofNumber
  split <;> trivial

theorem Val.sound_ofNat (k : Nat) {n : Nat} : (Val.ofNat k).Sound R n := sound_ofNumber _

theorem Val.sound_ofInt (k : Int) {n : Nat} : (Val.ofInt k).Sound R n := by
  unfold Val.ofInt
  split <;> trivial

/-! ## Properties -/

variable {ev : Evaluator}

theorem prototypeOf?_allowed {v : Val} (hs : h.Sound R) (hv : v.Sound R h.size)
    {r : ObjectRef} (hr : prototypeOf? v = some r) : R.Allows h.size r := by
  cases v <;> cases hr
  all_goals first
    | exact hv
    | exact hs.place (by decide)

theorem Slot.value_conducts (hev : ev.Conducts R) {receiver : Val} {s : Slot}
    (hreceiver : receiver.Sound R h.size) (hslot : s.Sound R h.size) :
    Action.Conducts R h (.val R) (s.value ev receiver) := by
  unfold Slot.value
  split
  · exact .pure hslot
  · exact .pure trivial
  · exact hev.call hslot.1 hreceiver fun v hv => absurd hv List.not_mem_nil

theorem stringProperty?_sound {s : Units} {k : Key} {v : Val} {n : Nat}
    (hv : stringProperty? s k = some v) : v.Sound R n := by
  unfold stringProperty? at hv
  split at hv
  · split at hv
    · cases hv
      exact Val.sound_ofNat _
    · obtain ⟨i, -, hi⟩ := Option.bind_eq_some_iff.mp hv
      obtain ⟨u, -, rfl⟩ := Option.map_eq_some_iff.mp hi
      trivial
  · cases hv

theorem getProperty_conducts (hev : ev.Conducts R) {v : Val} (hv : v.Sound R h.size) (k : Key) :
    Action.Conducts R h (.val R) (getProperty ev v k) := by
  unfold getProperty
  split
  · exact raiseAboutKey_conducts _ _ _ _
  · dsimp only
    split
    · rename_i x hx
      split at hx
      · exact .pure (stringProperty?_sound hx)
      · cases hx
    · refine .read_bind fun h' hl hs => ?_
      split
      · exact Slot.value_conducts hev (hv.mono hl.size_le) (hs.findProperty? ‹_›)
      · exact .pure trivial

/-! ## Making objects -/

/-- The objects with fixed places can be inherited from. -/
theorem place_allowed {r : ObjectRef} (hr : r ≤ Place.forbidden) (h' : Heap) (_ : h.Later h')
    (hs : h'.Sound R) : R.Allows h'.size r :=
  hs.place hr

theorem newObject_conducts {kind : ObjectKind} {prototype : ObjectRef}
    {ps : List (Key × Property)} (hnative : ∀ k, kind ≠ .function (.native k))
    (hkind : kind.Sound R h.size)
    (hprototype : ∀ h', h.Later h' → h'.Sound R → R.Allows h'.size prototype)
    (hps : ∀ e ∈ ps, e.2.Sound R h.size) :
    Action.Conducts R h (.val R) (newObject kind prototype ps) := by
  refine .here fun h' hl hs => .allocate hnative ?_
  refine Object.sound_make (hkind.mono hl.size_le) (fun p hp => ?_) fun e he => ?_
  · cases hp
    exact hprototype h' hl hs
  · exact (hps e he).mono hl.size_le

theorem newPattern_conducts (l : Pattern.Literal) :
    Action.Conducts R h (.val R) (newPattern l) := by
  refine newObject_conducts (fun k hk => by cases hk) trivial (place_allowed (by decide)) ?_
  intro e he
  rw [List.mem_singleton.mp he]
  trivial

theorem newSparseArray_conducts {vs : List (Option Val)}
    (hvs : ∀ v, some v ∈ vs → v.Sound R h.size) :
    Action.Conducts R h (.val R) (newSparseArray vs) := by
  refine .here fun h' hl hs => .allocate (fun k hk => ?_) ?_
  · rw [(Object.shape_fill _ _ _).kind] at hk
    cases hk
  · have harray : (Object.make .array (some Place.arrayPrototype)
        [lengthProperty vs.length]).Sound R h'.size := by
      refine Object.sound_make trivial (fun p hp => ?_) fun e he => ?_
      · cases hp
        exact hs.place (by decide)
      · rw [List.mem_singleton.mp he]
        exact Val.sound_ofNat _
    exact harray.fill 0 fun v hv => (hvs v hv).mono hl.size_le

theorem newArray_conducts {vs : List Val} (hvs : ∀ v ∈ vs, v.Sound R h.size) :
    Action.Conducts R h (.val R) (newArray vs) := by
  refine newSparseArray_conducts fun v hv => ?_
  obtain ⟨x, hx, he⟩ := List.mem_map.mp hv
  cases he
  exact hvs v hx

theorem functionProperties_sound (name : Units) (length : Nat) {n : Nat} :
    ∀ e ∈ functionProperties name length, e.2.Sound R n := by
  intro e he
  simp only [functionProperties, List.mem_cons, List.not_mem_nil, or_false] at he
  rcases he with rfl | rfl
  · exact Val.sound_ofNat _
  · trivial

/-! ## Conversions -/

/-- A value that is no object is the same in every heap. -/
theorem Val.sound_of_isObject {v : Val} (hv : isObject v = false) {n : Nat} : v.Sound R n := by
  cases v with
  | object r => cases hv
  | _ => trivial

theorem firstPrimitive_conducts (hev : ev.Conducts R) {v : Val} (hv : v.Sound R h.size)
    (ms : List String) : Action.Conducts R h (.val R) (firstPrimitive ev v ms) := by
  induction ms generalizing h with
  | nil => exact raiseError_conducts _ _
  | cons m rest ih =>
      refine (getProperty_conducts hev hv _).bind fun h₁ f hl hs hf => ?_
      refine .read_bind fun h₂ hl₂ _ => ?_
      have hv₂ := hv.mono (hl.trans hl₂).size_le
      split
      · refine (hev.call (hf.mono hl₂.size_le) hv₂ fun x hx => absurd hx List.not_mem_nil).bind
          fun h₃ x hl₃ _ hx => ?_
        split
        · exact ih (hv₂.mono hl₃.size_le)
        · exact .pure hx
      · exact ih hv₂

theorem toPrimitive_conducts (hev : ev.Conducts R) (p : Preference) {v : Val}
    (hv : v.Sound R h.size) : Action.Conducts R h (.val R) (toPrimitive ev p v) := by
  unfold toPrimitive
  split
  · exact firstPrimitive_conducts hev hv _
  · exact .pure hv

theorem toUnits_conducts (hev : ev.Conducts R) {v : Val} (hv : v.Sound R h.size) :
    Action.Conducts R h .any (toUnits ev v) := by
  refine (toPrimitive_conducts hev .text hv).bind fun _ x _ _ _ => ?_
  split
  · exact .pure trivial
  · exact raiseError_conducts _ _

theorem toNumeric_conducts (hev : ev.Conducts R) {v : Val} (hv : v.Sound R h.size) :
    Action.Conducts R h (.val R) (toNumeric ev v) := by
  refine (toPrimitive_conducts hev .number hv).bind fun _ x _ _ _ => ?_
  cases x with
  | string s => exact .pure (Val.sound_ofNumber _)
  | symbol id => exact raiseError_conducts _ _
  | bigint n => exact raiseError_conducts _ _
  | _ => exact .pure trivial

theorem toDouble_conducts (hev : ev.Conducts R) {v : Val} (hv : v.Sound R h.size) :
    Action.Conducts R h .any (toDouble ev v) :=
  (toNumeric_conducts hev hv).bind fun _ _ _ _ _ => .pure trivial

theorem toKey_conducts (hev : ev.Conducts R) {v : Val} (hv : v.Sound R h.size) :
    Action.Conducts R h .any (toKey ev v) := by
  refine (toPrimitive_conducts hev .text hv).bind fun _ x _ _ _ => ?_
  split <;> exact .pure trivial

/-- Two conversions to numbers, one after the other. -/
theorem toDouble_both_conducts (hev : ev.Conducts R) {a b : Val} (ha : a.Sound R h.size)
    (hb : b.Sound R h.size) {f : Double → Double → Action α}
    (hf : ∀ h' x y, h.Later h' → Action.Conducts R h' P (f x y)) :
    Action.Conducts R h P (do
      let x ← toDouble ev a
      let y ← toDouble ev b
      f x y) :=
  (toDouble_conducts hev ha).bind fun _ _ hl _ _ =>
    (toDouble_conducts hev (hb.mono hl.size_le)).bind fun _ _ hl' _ _ => hf _ _ _ (hl.trans hl')

theorem looselyEqualPrimitives_conducts (hev : ev.Conducts R) {a b : Val}
    (ha : a.Sound R h.size) (hb : b.Sound R h.size) :
    Action.Conducts R h .any (looselyEqualPrimitives ev a b) := by
  unfold looselyEqualPrimitives
  split
  · exact .pure trivial
  · exact .pure trivial
  · exact (toDouble_conducts hev hb).bind fun _ _ _ _ _ => .pure trivial
  · exact (toDouble_conducts hev ha).bind fun _ _ _ _ _ => .pure trivial
  · exact toDouble_both_conducts hev ha hb fun _ _ _ _ => .pure trivial

theorem looselyEqual_conducts (hev : ev.Conducts R) {a b : Val} (ha : a.Sound R h.size)
    (hb : b.Sound R h.size) : Action.Conducts R h .any (looselyEqual ev a b) := by
  refine .read_bind fun h₁ hl _ => ?_
  split
  · exact .pure trivial
  · split
    · exact .pure trivial
    · refine (toPrimitive_conducts hev .number (ha.mono hl.size_le)).bind
        fun h₂ x hl₂ _ hx => ?_
      refine (toPrimitive_conducts hev .number (hb.mono (hl.trans hl₂).size_le)).bind
        fun h₃ y hl₃ _ hy => ?_
      split
      · exact .pure trivial
      · exact looselyEqualPrimitives_conducts hev (hx.mono hl₃.size_le) hy

/-! ## Operators -/

theorem arithmetic_sound (op : BinaryOp) (a b : Val) {n : Nat} : (arithmetic op a b).Sound R n := by
  unfold arithmetic
  split
  · unfold integerArithmetic
    split
    · exact Val.sound_ofInt _
    · exact Val.sound_ofInt _
    · split
      · trivial
      · exact Val.sound_ofInt _
    · trivial
    · split
      · exact Val.sound_ofNumber _
      · exact Val.sound_ofInt _
  · unfold floatArithmetic
    split <;> trivial

/-- An operator on two numbers. -/
theorem toNumeric_both_conducts (hev : ev.Conducts R) (op : BinaryOp) {a b : Val}
    (ha : a.Sound R h.size) (hb : b.Sound R h.size) :
    Action.Conducts R h (.val R) (do
      let m ← toNumeric ev a
      let n ← toNumeric ev b
      pure (arithmetic op m n)) :=
  (toNumeric_conducts hev ha).bind fun _ _ hl _ _ =>
    (toNumeric_conducts hev (hb.mono hl.size_le)).bind fun _ _ _ _ _ =>
      .pure (arithmetic_sound op _ _)

theorem divideValues_conducts (hev : ev.Conducts R) {a b : Val} (ha : a.Sound R h.size)
    (hb : b.Sound R h.size) : Action.Conducts R h (.val R) (divideValues ev a b) := by
  unfold divideValues
  split
  · exact .pure (Val.sound_ofNumber _)
  · exact toNumeric_both_conducts hev .div ha hb

theorem addValues_conducts (hev : ev.Conducts R) {a b : Val} (ha : a.Sound R h.size)
    (hb : b.Sound R h.size) : Action.Conducts R h (.val R) (addValues ev a b) := by
  refine (toPrimitive_conducts hev .number ha).bind fun h₁ x hl₁ _ hx => ?_
  refine (toPrimitive_conducts hev .number (hb.mono hl₁.size_le)).bind fun h₂ y hl₂ _ hy => ?_
  refine .ite (fun _ => ?_) fun _ => ?_
  · refine (toUnits_conducts hev (hx.mono hl₂.size_le)).bind fun h₃ s hl₃ _ _ => ?_
    exact (toUnits_conducts hev (hy.mono hl₃.size_le)).bind fun _ _ _ _ _ =>
      newString_conducts _ _
  · exact toNumeric_both_conducts hev .add (hx.mono hl₂.size_le) hy

theorem compareValues_conducts (hev : ev.Conducts R) (op : BinaryOp) {a b : Val}
    (ha : a.Sound R h.size) (hb : b.Sound R h.size) :
    Action.Conducts R h .any (compareValues ev op a b) := by
  refine (toPrimitive_conducts hev .number ha).bind fun h₁ x hl₁ _ hx => ?_
  refine (toPrimitive_conducts hev .number (hb.mono hl₁.size_le)).bind fun h₂ y hl₂ _ hy => ?_
  split
  · exact .pure trivial
  · exact toDouble_both_conducts hev (hx.mono hl₂.size_le) hy fun _ _ _ _ => .pure trivial

theorem unbound_allowed (hs : h.Sound R) {r : ObjectRef} (hr : R.Allows h.size r) :
    R.Allows h.size (h.unbound r) := by
  suffices hgo : ∀ fuel r, R.Allows h.size r → R.Allows h.size (Heap.unbound.go h fuel r) from
    hgo _ r hr
  intro fuel
  induction fuel with
  | zero => exact fun _ hr => hr
  | succ fuel ih =>
      intro r hr
      unfold Heap.unbound.go
      split
      · rename_i target receiver arguments constructs hkind
        have hsound := (hs.objects r).kind
        rw [hkind] at hsound
        exact ih target hsound.1
      · exact hr

theorem isInstance_conducts (hev : ev.Conducts R) {v c : Val} (hc : c.Sound R h.size) :
    Action.Conducts R h .any (isInstance ev v c) := by
  refine .read_bind fun h₁ hl₁ _ => ?_
  split
  · refine .read_bind fun h₂ hl₂ hs₂ => ?_
    split
    · have htarget : (Val.object _).Sound R h₂.size :=
        unbound_allowed hs₂ (R.mono (hl₁.trans hl₂).size_le hc)
      refine (getProperty_conducts hev htarget _).bind fun h₃ p _ _ _ => ?_
      split
      · exact .read fun _ _ _ => trivial
      · exact raiseError_conducts _ _
    · exact .pure trivial
  · exact raiseError_conducts _ _

theorem hasProperty_conducts (hev : ev.Conducts R) {k v : Val} (hk : k.Sound R h.size) :
    Action.Conducts R h .any (hasProperty ev k v) := by
  unfold hasProperty
  split
  · exact (toKey_conducts hev hk).bind fun _ _ _ _ _ => .read fun _ _ _ => trivial
  · exact raiseError_conducts _ _

/-- The truth value of a test. -/
theorem truth_conducts {x : Action Bool} (hx : Action.Conducts R h .any x) (f : Bool → Bool) :
    Action.Conducts R h (.val R) (do
      let r ← x
      pure (.bool (f r))) :=
  hx.bind fun _ _ _ _ _ => .pure trivial

theorem applyBinary_conducts (hev : ev.Conducts R) (op : BinaryOp) {a b : Val}
    (ha : a.Sound R h.size) (hb : b.Sound R h.size) :
    Action.Conducts R h (.val R) (applyBinary ev op a b) := by
  cases op with
  | add => exact addValues_conducts hev ha hb
  | div => exact divideValues_conducts hev ha hb
  | sub => exact toNumeric_both_conducts hev .sub ha hb
  | mul => exact toNumeric_both_conducts hev .mul ha hb
  | rem => exact toNumeric_both_conducts hev .rem ha hb
  | less => exact truth_conducts (compareValues_conducts hev .less ha hb) id
  | lessEq => exact truth_conducts (compareValues_conducts hev .lessEq ha hb) id
  | greater => exact truth_conducts (compareValues_conducts hev .greater ha hb) id
  | greaterEq => exact truth_conducts (compareValues_conducts hev .greaterEq ha hb) id
  | identical => exact .pure trivial
  | different => exact .pure trivial
  | equal => exact truth_conducts (looselyEqual_conducts hev ha hb) id
  | unequal => exact truth_conducts (looselyEqual_conducts hev ha hb) not
  | instanceOf => exact truth_conducts (isInstance_conducts hev hb) id
  | member => exact truth_conducts (hasProperty_conducts hev ha) id

theorem applyUnary_conducts (hev : ev.Conducts R) (op : UnaryOp) {v : Val}
    (hv : v.Sound R h.size) : Action.Conducts R h (.val R) (applyUnary ev op v) := by
  cases op with
  | plus => exact toNumeric_conducts hev hv
  | minus =>
      simp only [applyUnary]
      split
      · exact .pure trivial
      · refine (toNumeric_conducts hev hv).bind fun _ x _ _ hx => .pure ?_
        unfold negate
        split
        · split
          · trivial
          · exact Val.sound_ofInt _
        · trivial
        · exact hx
  | not => exact .pure trivial
  | typeOf => exact .read fun _ _ _ => trivial
  | discard => exact .pure trivial

end ScriptHost.Script
