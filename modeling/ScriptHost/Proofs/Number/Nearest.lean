import Mathlib
import ScriptHost.Proofs.Number.Rank

/-!
# The nearest double

What it means that a number rounds to a double, said of the values alone: no finite double is
closer, of two equally close ones it is the one with the even significand, and the number is
not so large that infinity would be next.  `nearest_iff_owns` connects this with the ranks; a
double and what rounds to it have one sign, so that only the magnitudes are compared.  Because a
number has only one rank that owns it, it has only one nearest double (`Nearest.unique`), apart
from the two zeros.
-/

namespace ScriptHost.Double

variable {x y : Double} {b c : Nat} {v w : ℚ}

/-- One, with the sign of a double. -/
def sign (x : Double) : ℚ := if x.negative then -1 else 1

/-- The number that a finite double stands for. -/
def value (x : Double) : ℚ := x.sign * (x.significand * 2 ^ x.exponent)

/-- A number rounds to a double: to the nearest one, and of two equally near ones to the one
with the even significand.  Numbers from the middle between the largest finite double and
`2 ^ 1024` on round to infinity. -/
structure Nearest (v : ℚ) (x : Double) : Prop where
  finite : x.isFinite = true
  inRange : |v| < 2 ^ (1024 : Int) - 2 ^ (970 : Int)
  closest : ∀ y : Double, y.isFinite = true → |x.value - v| ≤ |y.value - v|
  even : ∀ y : Double, y.isFinite = true → |y.value - v| = |x.value - v| → y.value ≠ x.value →
    x.significand % 2 = 0

/-! ## Values and ranks -/

theorem value_eq (x : Double) : x.value = x.sign * sizeAt x.rank := by
  rw [value, sizeAt, significand_eq, exponent_eq]

@[simp] theorem abs_sign (x : Double) : |x.sign| = 1 := by
  unfold sign
  split <;> simp

theorem abs_value (x : Double) : |x.value| = sizeAt x.rank := by
  rw [value_eq, abs_mul, abs_sign, one_mul, abs_of_nonneg (sizeAt_nonneg _)]

/-- Two numbers with the sign of a double are as far apart as without it. -/
theorem abs_sign_mul_sub (x : Double) (v w : ℚ) : |x.sign * v - x.sign * w| = |v - w| := by
  rw [← mul_sub, abs_mul, abs_sign, one_mul]

/-- A finite double of a rank, with the sign of another. -/
theorem exists_rank (x : Double) (hb : b < infiniteRank) :
    ∃ y : Double, y.isFinite = true ∧ y.value = x.sign * sizeAt b := by
  have hsmall : b < 2 ^ 63 := lt_trans hb (by decide)
  refine ⟨ofRank x.negative b, isFinite_iff.mpr (by rwa [rank_ofRank _ hsmall]), ?_⟩
  rw [value_eq, rank_ofRank _ hsmall, sign, sign, negative_ofRank _ hsmall]

/-! ## The middle before infinity -/

/-- What rounds to a finite rank is below the middle between the largest finite double and
`2 ^ 1024`. -/
private theorem middle_infinite :
    sizeAt (infiniteRank - 1) + sizeAt infiniteRank = 2 * (2 ^ (1024 : Int) - 2 ^ (970 : Int)) := by
  have hstep := sizeAt_succ (infiniteRank - 1)
  have hexp : exponentAt (infiniteRank - 1) = 971 := by decide
  have hrank : infiniteRank - 1 + 1 = infiniteRank := by decide
  have hdouble : (2 : ℚ) ^ (971 : Int) = 2 * 2 ^ (970 : Int) := zpow_one_add₀ two_ne_zero 970
  rw [hrank, hexp, hdouble, sizeAt_infinite] at hstep
  rw [sizeAt_infinite]
  linarith

theorem Owns.inRange (h : Owns b v) (hb : b < infiniteRank) :
    v < 2 ^ (1024 : Int) - 2 ^ (970 : Int) := by
  have hmiddle := middle_infinite
  have hhigh := h.high
  rcases Nat.lt_or_eq_of_le (Nat.le_sub_one_of_lt hb) with hlt | rfl
  · have hfirst : sizeAt b < sizeAt (infiniteRank - 1) := sizeAt_strictMono hlt
    have hsecond : sizeAt (b + 1) ≤ sizeAt infiniteRank := sizeAt_strictMono.monotone (by omega)
    linarith
  · have hstrict := (h.odd (by decide)).2
    have hrank : infiniteRank - 1 + 1 = infiniteRank := by decide
    rw [hrank] at hstrict
    linarith

/-! ## Nearest and owned -/

/-- Of two numbers the lower one is as close exactly below the middle. -/
private theorem lower_closer_iff {r s : ℚ} (h : r < s) : |r - v| ≤ |s - v| ↔ 2 * v ≤ r + s := by
  have hdiff : (s - v) ^ 2 - (r - v) ^ 2 = (s - r) * (r + s - 2 * v) := by ring
  rw [← sq_le_sq, ← sub_nonneg, hdiff, mul_nonneg_iff_of_pos_left (sub_pos.mpr h), sub_nonneg]

/-- Of two numbers the upper one is as close exactly above the middle. -/
private theorem upper_closer_iff {r s : ℚ} (h : r < s) : |s - v| ≤ |r - v| ↔ r + s ≤ 2 * v := by
  have hdiff : (r - v) ^ 2 - (s - v) ^ 2 = (s - r) * (2 * v - (r + s)) := by ring
  rw [← sq_le_sq, ← sub_nonneg, hdiff, mul_nonneg_iff_of_pos_left (sub_pos.mpr h), sub_nonneg]

/-- No rank is closer to a number than the one that owns it. -/
theorem Owns.closest (h : Owns b v) (c : Nat) : |sizeAt b - v| ≤ |sizeAt c - v| := by
  rcases lt_trichotomy c b with hlt | rfl | hlt
  · rw [upper_closer_iff (sizeAt_strictMono hlt)]
    have hc : sizeAt c ≤ sizeAt (b - 1) := sizeAt_strictMono.monotone (by omega)
    linarith [h.low]
  · exact le_rfl
  · rw [lower_closer_iff (sizeAt_strictMono hlt)]
    have hc : sizeAt (b + 1) ≤ sizeAt c := sizeAt_strictMono.monotone hlt
    linarith [h.high]

/-- A rank that owns a number shares it with another one only if it is even. -/
theorem Owns.even_of_tie (h : Owns b v) (hne : c ≠ b) (htie : |sizeAt c - v| = |sizeAt b - v|) :
    b % 2 = 0 := by
  by_contra hodd
  obtain ⟨hlow, hhigh⟩ := h.odd (by omega)
  rcases lt_or_gt_of_ne hne with hlt | hlt
  · have hmiddle := (lower_closer_iff (sizeAt_strictMono hlt)).mp htie.le
    have hc : sizeAt c ≤ sizeAt (b - 1) := sizeAt_strictMono.monotone (by omega)
    linarith
  · have hmiddle := (upper_closer_iff (sizeAt_strictMono hlt)).mp htie.le
    have hc : sizeAt (b + 1) ≤ sizeAt c := sizeAt_strictMono.monotone hlt
    linarith

/-- A double whose rank owns a number is nearest to it, with its own sign. -/
theorem Owns.nearest (hx : x.isFinite = true) (h : Owns x.rank w) : Nearest (x.sign * w) x := by
  have hw := h.nonneg
  have hself : |x.value - x.sign * w| = |sizeAt x.rank - w| := by
    rw [value_eq, abs_sign_mul_sub]
  -- Taking the signs away brings no double further away.
  have hbound (y : Double) : |sizeAt y.rank - w| ≤ |y.value - x.sign * w| := by
    have hreverse := abs_abs_sub_abs_le y.value (x.sign * w)
    rwa [abs_value, abs_mul, abs_sign, one_mul, abs_of_nonneg hw] at hreverse
  refine ⟨hx, ?_, fun y _ => ?_, fun y _ htie hne => ?_⟩
  · rw [abs_mul, abs_sign, one_mul, abs_of_nonneg hw]
    exact h.inRange (isFinite_iff.mp hx)
  · rw [hself]
    exact (h.closest y.rank).trans (hbound y)
  · rw [significand_eq, significandAt_mod_two]
    rw [hself] at htie
    rcases eq_or_ne y.rank x.rank with hrank | hrank
    · -- Only the signs differ, and the number is not zero: the wrong sign is further away.
      have hsign : y.sign = -x.sign := by
        have hdiffer : y.sign ≠ x.sign := fun heq => hne (by rw [value_eq, value_eq, heq, hrank])
        unfold sign at hdiffer ⊢
        split at hdiffer <;> split at hdiffer <;> simp_all
      have hpos : 0 < sizeAt x.rank := by
        refine sizeAt_pos fun hzero => hne ?_
        rw [value_eq, value_eq, hrank, hzero, sizeAt_zero, mul_zero, mul_zero]
      have hwpos : 0 < w := by
        have := h.low
        have := sizeAt_nonneg (x.rank - 1)
        linarith
      have hwrong : |y.value - x.sign * w| = sizeAt x.rank + w := by
        rw [value_eq, hrank, hsign, neg_mul, ← neg_add', ← mul_add, abs_neg, abs_mul, abs_sign,
          one_mul, abs_of_pos (add_pos hpos hwpos)]
      have hright : |sizeAt x.rank - w| < sizeAt x.rank + w := by
        rw [abs_lt]
        constructor <;> linarith
      rw [hwrong] at htie
      exact absurd htie hright.ne'
    · exact h.even_of_tie hrank (le_antisymm (htie ▸ hbound y) (h.closest y.rank))

/-- The rank of the double that is nearest to a number owns it. -/
theorem Nearest.owns (hw : 0 ≤ w) (h : Nearest (x.sign * w) x) : Owns x.rank w := by
  have hself : |x.value - x.sign * w| = |sizeAt x.rank - w| := by
    rw [value_eq, abs_sign_mul_sub]
  have hclosest : ∀ c < infiniteRank, |sizeAt x.rank - w| ≤ |sizeAt c - w| := by
    intro c hc
    obtain ⟨y, hy, hvalue⟩ := exists_rank x hc
    have hle := h.closest y hy
    rwa [hself, hvalue, abs_sign_mul_sub] at hle
  -- With an odd significand a double is not the nearest one if another is as close.
  have hstrict : ∀ c < infiniteRank, c ≠ x.rank → x.rank % 2 = 1 →
      ¬|sizeAt c - w| ≤ |sizeAt x.rank - w| := by
    intro c hc hne hodd hle
    obtain ⟨y, hy, hvalue⟩ := exists_rank x hc
    have heven : x.significand % 2 = 0 := by
      refine h.even y hy ?_ fun heq => hne ?_
      · rw [hself, hvalue, abs_sign_mul_sub]
        exact le_antisymm hle (hclosest c hc)
      · have habs := congrArg abs heq
        rw [hvalue, abs_value, abs_mul, abs_sign, one_mul, abs_of_nonneg (sizeAt_nonneg c)] at habs
        exact sizeAt_strictMono.injective habs
    rw [significand_eq, significandAt_mod_two] at heven
    omega
  have hrange : w < 2 ^ (1024 : Int) - 2 ^ (970 : Int) := by
    have hlt := h.inRange
    rwa [abs_mul, abs_sign, one_mul, abs_of_nonneg hw] at hlt
  have hlow : sizeAt (x.rank - 1) + sizeAt x.rank ≤ 2 * w ∧
      (x.rank % 2 = 1 → sizeAt (x.rank - 1) + sizeAt x.rank < 2 * w) := by
    rcases Nat.eq_zero_or_pos x.rank with hzero | hpos
    · rw [hzero, Nat.zero_sub, sizeAt_zero]
      exact ⟨by linarith, fun hodd => absurd hodd (by decide)⟩
    · have hprev : x.rank - 1 < x.rank := by omega
      have hlt := hprev.trans (isFinite_iff.mp h.finite)
      have hstep : sizeAt (x.rank - 1) < sizeAt x.rank := sizeAt_strictMono hprev
      refine ⟨(upper_closer_iff hstep).mp (hclosest _ hlt), fun hodd => ?_⟩
      have hnot := hstrict _ hlt hprev.ne hodd
      rwa [lower_closer_iff hstep, not_le] at hnot
  have hhigh : 2 * w ≤ sizeAt x.rank + sizeAt (x.rank + 1) ∧
      (x.rank % 2 = 1 → 2 * w < sizeAt x.rank + sizeAt (x.rank + 1)) := by
    rcases Nat.lt_or_eq_of_le (Nat.succ_le_of_lt (isFinite_iff.mp h.finite)) with hlt | heq
    · have hstep : sizeAt x.rank < sizeAt (x.rank + 1) := sizeAt_strictMono (Nat.lt_succ_self _)
      refine ⟨(lower_closer_iff hstep).mp (hclosest _ hlt), fun hodd => ?_⟩
      have hnot := hstrict _ hlt (Nat.succ_ne_self _) hodd
      rwa [upper_closer_iff hstep, not_le] at hnot
    · -- The largest double has no neighbour above; the bound of the range stands for it.
      have hmiddle := middle_infinite
      have hlast : infiniteRank - 1 = x.rank := by omega
      rw [hlast, ← heq] at hmiddle
      exact ⟨by linarith, fun _ => by linarith⟩
  exact ⟨hlow.1, hhigh.1, fun hodd => ⟨hlow.2 hodd, hhigh.2 hodd⟩⟩

theorem nearest_iff_owns (hx : x.isFinite = true) (hw : 0 ≤ w) :
    Nearest (x.sign * w) x ↔ Owns x.rank w :=
  ⟨Nearest.owns hw, Owns.nearest hx⟩

/-! ## Only one double is nearest -/

theorem value_of_zero (hx : x.isZero = true) : x.value = 0 := by
  rw [value_eq, isZero_iff.mp hx, sizeAt_zero, mul_zero]

/-- What is nearest does not depend on the sign of a zero. -/
theorem Nearest.of_zero (h : Nearest v x) (hx : x.isZero = true) (hy : y.isZero = true) :
    Nearest v y := by
  have hvalue : y.value = x.value := (value_of_zero hy).trans (value_of_zero hx).symm
  refine ⟨isFinite_iff.mpr (by rw [isZero_iff.mp hy]; decide), h.inRange, fun z hz => ?_,
    fun z _ _ _ => ?_⟩
  · rw [hvalue]
    exact h.closest z hz
  · rw [significand_eq, isZero_iff.mp hy]
    decide

/-- A number on the other side of zero is nearest to a zero only. -/
private theorem Nearest.isZero_of_neg (h : Nearest v x) (hneg : x.sign * v < 0) :
    x.isZero = true := by
  rw [isZero_iff]
  by_contra hrank
  obtain ⟨z, hz, hvalue⟩ := exists_rank (b := 0) x (by decide)
  have hpos := sizeAt_pos hrank
  -- zero is closer than a double with the wrong sign
  have hclosest := h.closest z hz
  have hv : v = x.sign * (x.sign * v) := by
    rw [← mul_assoc, ← abs_mul_abs_self, abs_sign, one_mul, one_mul]
  rw [value_eq, hvalue, hv, abs_sign_mul_sub, abs_sign_mul_sub, sizeAt_zero, zero_sub, abs_neg,
    abs_of_neg hneg, abs_of_pos (by linarith)] at hclosest
  linarith

/-- The rank of the double that is nearest to a number owns its magnitude. -/
theorem Nearest.owns_abs (h : Nearest v x) : Owns x.rank |v| := by
  have hsame {y : Double} (hy : Nearest v y) (hsign : 0 ≤ y.sign * v) : Owns y.rank |v| := by
    have hsquare : y.sign * y.sign = 1 := by rw [← abs_mul_abs_self, abs_sign, one_mul]
    have hv : v = y.sign * (y.sign * v) := by rw [← mul_assoc, hsquare, one_mul]
    have habs : |v| = y.sign * v := by
      rw [← abs_of_nonneg hsign, abs_mul, abs_sign, one_mul]
    rw [habs]
    exact Nearest.owns hsign (hv ▸ hy)
  rcases le_or_gt 0 (x.sign * v) with hsign | hneg
  · exact hsame h hsign
  · -- the double is a zero, and the zero with the other sign is as near
    have hzero := h.isZero_of_neg hneg
    have hrank := isZero_iff.mp hzero
    obtain ⟨y, hy⟩ : ∃ y : Double, y = ofRank (!x.negative) 0 := ⟨_, rfl⟩
    have hyrank : y.rank = 0 := hy ▸ rank_ofRank _ (by decide)
    have hysign : y.sign = -x.sign := by
      rw [sign, sign, hy, negative_ofRank _ (by decide)]
      cases x.negative <;> simp
    have howns := hsame (h.of_zero hzero (isZero_iff.mpr hyrank)) (by rw [hysign]; linarith)
    rwa [hyrank, ← hrank] at howns

/-- Only one double is nearest to a number, unless it is a zero. -/
theorem Nearest.unique (hx : Nearest v x) (hy : Nearest v y) :
    y = x ∨ y.isZero = true ∧ x.isZero = true := by
  have hrank : y.rank = x.rank := hy.owns_abs.unique hx.owns_abs
  by_cases hneg : y.negative = x.negative
  · exact .inl (eq_of_rank hneg hrank)
  · refine .inr ?_
    rw [isZero_iff, isZero_iff, hrank, and_self]
    -- a number cannot be on the same side of zero as both
    have hsign : y.sign = -x.sign := by
      unfold sign
      cases hyn : y.negative <;> cases hxn : x.negative <;> simp_all
    rcases lt_trichotomy (x.sign * v) 0 with hlt | hzero | hgt
    · exact isZero_iff.mp (hx.isZero_of_neg hlt)
    · have habs : |v| = 0 := by
        rw [← one_mul |v|, ← abs_sign x, ← abs_mul, hzero, abs_zero]
      have howns := hx.owns_abs
      rw [habs, ← sizeAt_zero] at howns
      exact howns.unique (owns_sizeAt 0)
    · rw [← hrank]
      exact isZero_iff.mp (hy.isZero_of_neg (by rw [hsign]; linarith))

end ScriptHost.Double
