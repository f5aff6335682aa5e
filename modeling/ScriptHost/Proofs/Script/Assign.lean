import ScriptHost.Proofs.Script.Pristine
import ScriptHost.Proofs.Text.Utf16

/-!
# Assigning to plain objects

A plain object inherits from the prototype of plain objects alone.  As long as that prototype
is the one of an empty realm, nothing that the object inherits is read-only or has a setter,
but for the one name under which the prototype itself is kept, `__proto__`.  A new property is
then put on the object itself, if the engine has the memory for it.
-/

namespace ScriptHost.Script

/-- The key of another name is another key. -/
theorem key_ne {name other : String} (h : name ≠ other) : key name ≠ key other := by
  intro heq
  injection heq with hunits
  exact h (Units.ofString_injective hunits)

/-- The name under which plain objects have their prototype. -/
def prototypeName : String := "__proto__"

/-! ## The prototype of plain objects -/

namespace Heap

variable {h : Heap} {r : ObjectRef}

end Heap

/-! ## Putting a property -/

private theorem findKey?_replaceKey (k k' : Key) (p : Property) {ps : List (Key × Property)}
    (hk : (findKey? k ps).isSome = true) :
    findKey? k' (replaceKey k p ps) = if k' = k then some p else findKey? k' ps := by
  induction ps with
  | nil => cases hk
  | cons e ps ih =>
      obtain ⟨k₁, p₁⟩ := e
      unfold findKey? at hk
      unfold replaceKey
      by_cases hfirst : k₁ = k
      · subst hfirst
        simp only [if_true, findKey?]
        by_cases hsame : k₁ = k'
        · subst hsame
          simp only [if_true]
        · simp only [if_neg hsame, if_neg (Ne.symm hsame)]
      · rw [if_neg hfirst] at hk ⊢
        simp only [findKey?, ih hk]
        by_cases hsame : k₁ = k'
        · subst hsame
          simp only [if_true, if_neg hfirst]
        · simp only [if_neg hsame]

theorem findKey?_putKey (k k' : Key) (p : Property) (ps : List (Key × Property)) :
    findKey? k' (putKey k p ps) = if k' = k then some p else findKey? k' ps := by
  unfold putKey
  split
  · rename_i hk
    exact findKey?_replaceKey k k' p hk
  · simp only [findKey?]
    by_cases hsame : k = k'
    · subst hsame
      simp only [if_true]
    · simp only [if_neg hsame, if_neg (Ne.symm hsame)]

/-- What stands under a key that is no index after a property was put there. -/
theorem Object.own?_put (o : Object) {k : Key} (hk : k.index? = none) (p : Property) (k' : Key) :
    (o.put k p).own? k' = if k' = k then some p else o.own? k' := by
  have hput : o.put k p = { o with properties := putKey k p o.properties } := by
    unfold Object.put
    rw [hk]
  rw [hput]
  unfold Object.own?
  by_cases hsame : k' = k
  · subst hsame
    have hnone : o.element? k' = none := by
      unfold Object.element?
      rw [hk]
      rfl
    have hnone' : Object.element? { o with properties := putKey k' p o.properties } k' = none :=
      hnone
    simp only [hnone', findKey?_putKey, if_true]
  · have helement : Object.element? { o with properties := putKey k p o.properties } k' =
        o.element? k' := rfl
    simp only [helement, findKey?_putKey, if_neg hsame]

/-! ## Assignment -/

theorem Object.extensible_put (o : Object) (k : Key) (p : Property) :
    (o.put k p).extensible = o.extensible := by
  unfold Object.put
  split
  · rfl
  · split
    · split
      · rfl
      · rfl
    · split
      · rfl
      · rfl

variable {h : Heap} {r : ObjectRef}

/-- Where there is one prototype and no further, a property is found on the object or there. -/
theorem Heap.own?_of_findProperty? {root owner : ObjectRef} {k : Key} {p : Property}
    (hroot : (h.object r).prototype = some root) (hend : (h.object root).prototype = none)
    (hp : h.findProperty? r k = some (owner, p)) :
    owner = r ∧ (h.object r).own? k = some p ∨
      owner = root ∧ (h.object root).own? k = some p := by
  have hlast (fuel : Nat) (hp : Heap.findProperty?.go h k fuel root = some (owner, p)) :
      owner = root ∧ (h.object root).own? k = some p := by
    cases fuel with
    | zero => cases hp
    | succ fuel =>
        unfold Heap.findProperty?.go at hp
        cases hown : (h.object root).own? k with
        | some q =>
            simp only [hown] at hp
            cases hp
            exact ⟨rfl, rfl⟩
        | none =>
            simp only [hown, hend] at hp
            cases hp
  unfold Heap.findProperty? at hp
  generalize h.objects.size = fuel at hp
  cases fuel with
  | zero => cases hp
  | succ fuel =>
      simp only [Heap.findProperty?.go, hroot] at hp
      split at hp
      · rename_i hown
        cases hp
        exact .inl ⟨rfl, hown⟩
      · exact .inr (hlast fuel hp)

/-- Whether an engine has the memory for one more property of an object. -/
def Evaluator.HasPlace (ev : Evaluator) (h : Heap) (r : ObjectRef) : Prop :=
  (h.object r).elements.size ≠ 0 →
    ev.grants h (elementBytes * ((h.object r).elements.size + 1)) = true

theorem reserveProperty_eq {ev : Evaluator} (hplace : ev.HasPlace h r) :
    reserveProperty ev r h = .finished h (.returned ()) := by
  simp only [reserveProperty, bind, Action.bind, Action.read, Run.andThen_finished]
  split
  · rfl
  · rename_i hrow
    simp only [reserve, bind, Action.bind, Action.read, Run.andThen_finished, hplace hrow, if_true]
    rfl

/-- An object that is no array and can be extended gets a new property. -/
theorem addProperty_eq {ev : Evaluator} (hextensible : (h.object r).extensible = true)
    (hisArray : (h.object r).isArray = false) (hplace : ev.HasPlace h r) (k : Key) (v : Val) :
    addProperty ev r k v h =
      .finished (h.modify r fun o => o.put k (.plain v)) (.returned ()) := by
  have hrefusal : (h.object r).refusal? k = none := by
    simp only [Object.refusal?, hextensible, hisArray, Bool.not_true, Bool.false_eq_true,
      if_false]
  have hdefine : (h.modify r fun o => o.define k (.plain v)) =
      h.modify r fun o => o.put k (.plain v) := by
    rw [← h.setObject_eq_modify r, ← h.setObject_eq_modify r]
    simp only [Object.define, hisArray, Bool.false_eq_true, if_false]
  change (Action.read (fun h => (h.object r).refusal? k) >>= fun refusal => _) h = _
  simp only [bind, Action.bind, Action.read, Run.andThen_finished, hrefusal,
    reserveProperty_eq hplace, Action.change, hdefine]

end ScriptHost.Script
