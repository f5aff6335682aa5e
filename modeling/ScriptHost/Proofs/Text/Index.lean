import Mathlib
import ScriptHost.Text.Utf16

/-!
# One string for each index

An index is spelled in decimal form, without zeros in front.  So the number of digits follows
from the number, and the digits do: two strings that spell the same index are the same.
-/

namespace ScriptHost.Units

theorem digitOf_lt {u : UInt16} {d : Nat} (h : digitOf u = some d) : d < 10 := by
  unfold digitOf at h
  split at h
  · rw [← Option.some.inj h]
    omega
  · cases h

theorem digitOf_injective {u v : UInt16} {d : Nat} (hu : digitOf u = some d)
    (hv : digitOf v = some d) : u = v := by
  unfold digitOf at hu hv
  split at hu
  · split at hv
    · have hu := Option.some.inj hu
      have hv := Option.some.inj hv
      exact UInt16.toNat_inj.mp (by omega)
    · cases hv
  · cases hu

/-- The digits take up so many places, and what is in front of them comes before these. -/
theorem readDigits_bounds {us : Units} {a n : Nat} (h : readDigits us a = some n) :
    a * 10 ^ us.length ≤ n ∧ n < (a + 1) * 10 ^ us.length := by
  induction us generalizing a with
  | nil =>
      have heq : a = n := Option.some.inj h
      subst heq
      simp
  | cons u rest ih =>
      obtain ⟨d, hd, hrest⟩ := Option.bind_eq_some_iff.mp h
      have hdigit := digitOf_lt hd
      obtain ⟨hle, hlt⟩ := ih hrest
      rw [List.length_cons, pow_succ]
      constructor
      · calc a * (10 ^ rest.length * 10) = a * 10 * 10 ^ rest.length := by ring
          _ ≤ (a * 10 + d) * 10 ^ rest.length := Nat.mul_le_mul_right _ (Nat.le_add_right _ _)
          _ ≤ n := hle
      · calc n < (a * 10 + d + 1) * 10 ^ rest.length := hlt
          _ ≤ (a + 1) * 10 * 10 ^ rest.length := Nat.mul_le_mul_right _ (by omega)
          _ = (a + 1) * (10 ^ rest.length * 10) := by ring

/-- As many digits that spell the same number are the same. -/
theorem readDigits_injective {us vs : Units} {a b n : Nat} (hlength : us.length = vs.length)
    (hu : readDigits us a = some n) (hv : readDigits vs b = some n) : a = b ∧ us = vs := by
  induction us generalizing a b vs with
  | nil =>
      obtain rfl := List.length_eq_zero_iff.mp hlength.symm
      exact ⟨(Option.some.inj hu).trans (Option.some.inj hv).symm, rfl⟩
  | cons u us ih =>
      obtain ⟨v, vs, rfl⟩ := List.exists_cons_of_length_eq_add_one hlength.symm
      obtain ⟨d, hd, hrest⟩ := Option.bind_eq_some_iff.mp hu
      obtain ⟨e, he, hrest'⟩ := Option.bind_eq_some_iff.mp hv
      obtain ⟨hsame, rfl⟩ := ih (Nat.succ.inj hlength) hrest hrest'
      have hd' := digitOf_lt hd
      have he' := digitOf_lt he
      obtain ⟨rfl, rfl⟩ : a = b ∧ d = e := by omega
      exact ⟨rfl, by rw [digitOf_injective hd he]⟩

/-- An index is zero and spelled so, or it is spelled with a first digit that is not zero. -/
private theorem arrayIndex?_cases {us : Units} {n : Nat} (h : us.arrayIndex? = some n) :
    (us = [48] ∧ n = 0) ∨
      ∃ u rest d, us = u :: rest ∧ digitOf u = some d ∧ 0 < d ∧ readDigits rest d = some n := by
  unfold arrayIndex? at h
  cases us with
  | nil => cases h
  | cons u rest =>
      cases hd : digitOf u with
      | none => simp [hd] at h
      | some d =>
          simp only [hd, Option.isNone_some, Bool.false_eq_true, if_false] at h
          split at h
          · rename_i hzero
            split at h
            · rename_i hrest
              rw [hzero, List.isEmpty_iff.mp hrest]
              exact .inl ⟨rfl, (Option.some.inj h).symm⟩
            · cases h
          · rename_i hzero
            split at h
            · cases h
            · obtain ⟨m, hm, hbound⟩ := Option.bind_eq_some_iff.mp h
              split at hbound
              · rw [Option.some.inj hbound, readDigits, hd, Option.bind_some, Nat.zero_mul,
                  Nat.zero_add] at hm
                refine .inr ⟨u, rest, d, rfl, hd, Nat.pos_of_ne_zero fun hd0 => hzero ?_, hm⟩
                subst hd0
                exact digitOf_injective hd rfl
              · cases hbound

/-- The number of digits follows from the number. -/
private theorem length_le_of_readDigits {us vs : Units} {d e n : Nat} (hd : 0 < d) (he : e < 10)
    (hu : readDigits us d = some n) (hv : readDigits vs e = some n) :
    us.length ≤ vs.length := by
  by_contra hlt
  have hle := (readDigits_bounds hu).1
  have hbound := (readDigits_bounds hv).2
  have hchain : n < d * 10 ^ us.length :=
    calc n < (e + 1) * 10 ^ vs.length := hbound
      _ ≤ 10 * 10 ^ vs.length := Nat.mul_le_mul_right _ he
      _ = 10 ^ (vs.length + 1) := by rw [pow_succ, Nat.mul_comm]
      _ ≤ 10 ^ us.length := Nat.pow_le_pow_right (by decide) (Nat.lt_of_not_le hlt)
      _ ≤ d * 10 ^ us.length := Nat.le_mul_of_pos_left _ hd
  exact Nat.lt_irrefl _ (Nat.lt_of_lt_of_le hchain hle)

/-- Two strings that spell the same index are the same. -/
theorem arrayIndex?_injective {us vs : Units} {n : Nat} (hu : us.arrayIndex? = some n)
    (hv : vs.arrayIndex? = some n) : us = vs := by
  have hpositive {us : Units} {d n : Nat} (hd : 0 < d) (h : readDigits us d = some n) : 0 < n :=
    Nat.lt_of_lt_of_le (Nat.mul_pos hd (Nat.pow_pos (by decide))) (readDigits_bounds h).1
  rcases arrayIndex?_cases hu with ⟨rfl, rfl⟩ | ⟨u, us, d, rfl, hd, hdpos, hus⟩
  · rcases arrayIndex?_cases hv with ⟨rfl, -⟩ | ⟨v, vs, e, rfl, he, hepos, hvs⟩
    · rfl
    · exact absurd (hpositive hepos hvs) (Nat.lt_irrefl 0)
  · rcases arrayIndex?_cases hv with ⟨rfl, rfl⟩ | ⟨v, vs, e, rfl, he, hepos, hvs⟩
    · exact absurd (hpositive hdpos hus) (Nat.lt_irrefl 0)
    · have hlength : us.length = vs.length := Nat.le_antisymm
        (length_le_of_readDigits hdpos (digitOf_lt he) hus hvs)
        (length_le_of_readDigits hepos (digitOf_lt hd) hvs hus)
      obtain ⟨rfl, rfl⟩ := readDigits_injective hlength hus hvs
      rw [digitOf_injective hd he]

end ScriptHost.Units
