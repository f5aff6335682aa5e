import Mathlib
import ScriptHost.Script.Builtin.Object

/-!
# What an object holds

An object keeps its properties in two places, a row and a list, and moves them from
one to the other when it has to.  To say what an operation can bring into an object
it does not matter where a property stands: `Object.Holds` forgets the place and the
key.  No operation invents a property.  What an object holds afterwards it held
before, or it is the property that the operation was given.
-/

namespace ScriptHost.Script

/-! ## Operations on properties leave the rest of an object -/

namespace Object

/-- Two objects differ at most in their properties. -/
structure SameShape (o o' : Object) : Prop where
  kind : o'.kind = o.kind
  prototype : o'.prototype = o.prototype

variable (o : Object)

theorem SameShape.trans {o o' o'' : Object} (h : o.SameShape o') (h' : o'.SameShape o'') :
    o.SameShape o'' :=
  ⟨h'.kind.trans h.kind, h'.prototype.trans h.prototype⟩

theorem shape_put (k : Key) (p : Property) : o.SameShape (o.put k p) := by
  unfold put
  split
  · exact ⟨rfl, rfl⟩
  · split
    · split <;> exact ⟨rfl, rfl⟩
    · split <;> exact ⟨rfl, rfl⟩

theorem shape_erase (k : Key) : o.SameShape (o.erase k) := by
  unfold erase
  split
  · split <;> exact ⟨rfl, rfl⟩
  · exact ⟨rfl, rfl⟩

theorem shape_mapProperties (f : Property → Property) : o.SameShape (o.mapProperties f) :=
  ⟨rfl, rfl⟩

theorem shape_withLength (n : Nat) : o.SameShape (o.withLength n) := shape_put ..

theorem shape_define (k : Key) (p : Property) : o.SameShape (o.define k p) := by
  unfold define
  split
  · split
    · split
      · exact (o.shape_withLength _).trans (shape_put ..)
      · exact o.shape_put k p
    · exact o.shape_put k p
  · exact o.shape_put k p

theorem shape_truncate (n : Nat) : o.SameShape (o.truncate n) :=
  ⟨(shape_withLength ..).kind, (shape_withLength ..).prototype⟩

theorem shape_fill (n : Nat) (vs : List (Option Val)) : o.SameShape (o.fill n vs) := by
  induction vs generalizing o n with
  | nil => exact ⟨rfl, rfl⟩
  | cons v vs ih =>
      cases v with
      | none => exact ih o (n + 1)
      | some v => exact (o.shape_put _ _).trans (ih _ (n + 1))

end Object

/-! ## What is held -/

namespace Object

/-- A property of the object, wherever it stands. -/
def Holds (o : Object) (p : Property) : Prop :=
  (∃ v ∈ o.elements, p = .plain v) ∨ ∃ k, (k, p) ∈ o.properties

variable {o : Object} {k : Key} {p q : Property}

private theorem mem_of_findKey? {ps : List (Key × Property)} (h : findKey? k ps = some p) :
    (k, p) ∈ ps := by
  induction ps with
  | nil => cases h
  | cons e ps ih =>
      obtain ⟨k', p'⟩ := e
      unfold findKey? at h
      split at h
      · rename_i hk
        cases h
        subst hk
        exact List.mem_cons_self
      · exact List.mem_cons_of_mem _ (ih h)

private theorem mem_replaceKey {ps : List (Key × Property)} {e : Key × Property}
    (h : e ∈ replaceKey k p ps) : e ∈ ps ∨ e.2 = p := by
  induction ps with
  | nil => cases h
  | cons e' ps ih =>
      obtain ⟨k', p'⟩ := e'
      unfold replaceKey at h
      split at h
      · rcases List.mem_cons.mp h with rfl | hmem
        · exact .inr rfl
        · exact .inl (List.mem_cons_of_mem _ hmem)
      · rcases List.mem_cons.mp h with rfl | hmem
        · exact .inl List.mem_cons_self
        · exact (ih hmem).imp_left (List.mem_cons_of_mem _)

private theorem mem_putKey {ps : List (Key × Property)} {e : Key × Property}
    (h : e ∈ putKey k p ps) : e ∈ ps ∨ e.2 = p := by
  unfold putKey at h
  split at h
  · exact mem_replaceKey h
  · rcases List.mem_cons.mp h with rfl | hmem
    · exact .inr rfl
    · exact .inl hmem

/-- A property is plain or stands in the list. -/
theorem plain_or_mem_of_own? (h : o.own? k = some p) :
    (∃ v ∈ o.elements, p = .plain v) ∨ (k, p) ∈ o.properties := by
  unfold own? at h
  split at h
  · rename_i v hv
    cases h
    obtain ⟨i, -, hi⟩ := Option.bind_eq_some_iff.mp hv
    exact .inl ⟨v, Array.mem_of_getElem? hi, rfl⟩
  · exact .inr (mem_of_findKey? h)

theorem holds_of_own? (h : o.own? k = some p) : o.Holds p :=
  (plain_or_mem_of_own? h).imp_right fun hmem => ⟨k, hmem⟩

theorem holds_of_spread (h : o.spread.Holds p) : o.Holds p := by
  rcases h with ⟨v, hv, -⟩ | ⟨k, hk⟩
  · exact absurd hv (Array.not_mem_empty v)
  · simp only [spread, List.mem_append, List.mem_reverse, List.mem_map] at hk
    rcases hk with ⟨⟨v, i⟩, hv, he⟩ | hk
    · cases he
      exact .inl ⟨v, Array.mem_toList_iff.mp (List.fst_mem_of_mem_zipIdx hv), rfl⟩
    · exact .inr ⟨k, hk⟩

/-- The list is changed in place or at its end. -/
private theorem holds_of_putKey
    (h : Holds { o with properties := putKey k p o.properties } q) : o.Holds q ∨ q = p := by
  rcases h with hv | ⟨k', hk'⟩
  · exact .inl (.inl hv)
  · exact (mem_putKey hk').imp_left fun hmem => .inr ⟨k', hmem⟩

theorem eq_plain_of_plain? {v : Val} (h : p.plain? = some v) : p = .plain v := by
  unfold Property.plain? at h
  split at h
  · cases h
    rfl
  · cases h

theorem holds_of_put (h : (o.put k p).Holds q) : o.Holds q ∨ q = p := by
  unfold put at h
  split at h
  · exact holds_of_putKey h
  · split at h
    · split at h
      · rename_i v hv
        rcases h with ⟨x, hx, rfl⟩ | hk
        · rcases Array.mem_or_eq_of_mem_setIfInBounds hx with hmem | rfl
          · exact .inl (.inl ⟨x, hmem, rfl⟩)
          · exact .inr (eq_plain_of_plain? hv).symm
        · exact .inl (.inr hk)
      · exact (holds_of_putKey h).imp_left holds_of_spread
    · split at h
      · rename_i hlast
        rcases h with ⟨x, hx, rfl⟩ | hk
        · rcases Array.mem_push.mp hx with hmem | rfl
          · exact .inl (.inl ⟨x, hmem, rfl⟩)
          · obtain ⟨v, hv⟩ : ∃ v, p.plain? = some v := by
              simp only [Bool.and_eq_true] at hlast
              exact Option.isSome_iff_exists.mp hlast.1.2
            rw [hv, Option.getD_some]
            exact .inr (eq_plain_of_plain? hv).symm
        · exact .inl (.inr hk)
      · exact holds_of_putKey h

private theorem holds_of_filter {f : Key × Property → Bool}
    (h : Holds { o with properties := o.properties.filter f } p) : o.Holds p :=
  h.imp_right fun ⟨k, hk⟩ => ⟨k, (List.mem_filter.mp hk).1⟩

theorem holds_of_erase (h : (o.erase k).Holds p) : o.Holds p := by
  unfold erase at h
  split at h
  · split at h
    · rcases h with ⟨v, hv, rfl⟩ | hk
      · rw [← Array.mem_toList_iff, Array.toList_pop] at hv
        exact .inl ⟨v, Array.mem_toList_iff.mp ((List.dropLast_sublist _).subset hv), rfl⟩
      · exact .inr hk
    · exact holds_of_spread (holds_of_filter h)
  · exact holds_of_filter h

theorem holds_of_mapProperties {f : Property → Property} (h : (o.mapProperties f).Holds p) :
    ∃ q, o.Holds q ∧ p = f q := by
  rcases h with ⟨v, hv, -⟩ | ⟨k, hk⟩
  · exact absurd hv (Array.not_mem_empty v)
  · obtain ⟨⟨k', q⟩, hq, he⟩ := List.mem_map.mp hk
    cases he
    exact ⟨q, holds_of_spread (.inr ⟨k', hq⟩), rfl⟩

/-- The property that says how long an array is. -/
def IsLength (p : Property) : Prop := ∃ n w, p = ⟨.data (.ofNat n) w, false, false⟩

theorem holds_of_withLength {n : Nat} (h : (o.withLength n).Holds p) :
    o.Holds p ∨ IsLength p :=
  (holds_of_put h).imp_right fun he => ⟨n, o.lengthIsWritable, he⟩

theorem holds_of_define (h : (o.define k p).Holds q) : o.Holds q ∨ q = p ∨ IsLength q := by
  unfold define at h
  split at h
  · split at h
    · rcases holds_of_put h with h | rfl
      · split at h
        · exact (holds_of_withLength h).imp_right .inr
        · exact .inl h
      · exact .inr (.inl rfl)
    · exact (holds_of_put h).imp_right .inl
  · exact (holds_of_put h).imp_right .inl

theorem holds_of_truncate {n : Nat} (h : (o.truncate n).Holds p) : o.Holds p ∨ IsLength p := by
  refine (holds_of_withLength h).imp_left fun h => ?_
  rcases h with ⟨v, hv, rfl⟩ | ⟨k, hk⟩
  · refine .inl ⟨v, ?_, rfl⟩
    simp only [Array.shrink_eq_take, Array.take_eq_extract, Array.mem_extract_iff_getElem] at hv
    obtain ⟨i, hi, rfl⟩ := hv
    exact Array.getElem_mem _
  · exact .inr ⟨k, (List.mem_filter.mp hk).1⟩

theorem holds_of_fill {n : Nat} {vs : List (Option Val)} (h : (o.fill n vs).Holds p) :
    o.Holds p ∨ ∃ v, some v ∈ vs ∧ p = .plain v := by
  induction vs generalizing o n with
  | nil => exact .inl h
  | cons v vs ih =>
      cases v with
      | none =>
          exact (ih h).imp_right fun ⟨v, hv, he⟩ => ⟨v, List.mem_cons_of_mem _ hv, he⟩
      | some v =>
          rcases ih h with h | ⟨v', hv, he⟩
          · exact (holds_of_put h).imp_right fun he => ⟨v, List.mem_cons_self, he⟩
          · exact .inr ⟨v', List.mem_cons_of_mem _ hv, he⟩

theorem holds_of_make {kind : ObjectKind} {prototype : Option ObjectRef}
    {ps : List (Key × Property)} (h : (make kind prototype ps).Holds p) : ∃ k, (k, p) ∈ ps := by
  rcases h with ⟨v, hv, -⟩ | ⟨k, hk⟩
  · exact absurd hv (Array.not_mem_empty v)
  · exact ⟨k, List.mem_reverse.mp hk⟩

theorem not_holds_default : ¬(default : Object).Holds p := by
  intro h
  obtain ⟨k, hk⟩ := holds_of_make h
  cases hk

end Object

end ScriptHost.Script
