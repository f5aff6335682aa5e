import Mathlib

/-!
# Powers of two and of ten

Three decimal digits are a little less than ten binary ones, and twenty-eight a little more than
ninety-three.  This is close enough for every comparison that is made here, because the
exponents of doubles are small.
-/

namespace ScriptHost

/-- Which of the two bounds is needed depends on the sign of the exponent. -/
theorem two_zpow_le_ten_zpow {e j : Int} (h : 3 * e ≤ 10 * j) (h' : 28 * e ≤ 93 * j) :
    (2 : ℚ) ^ e ≤ 10 ^ j := by
  have hten : (1 : ℚ) ≤ 10 := by norm_num
  rcases le_total 0 e with he | he
  · rw [← pow_le_pow_iff_left₀ (by positivity) (by positivity) (by norm_num : 93 ≠ 0)]
    calc ((2 : ℚ) ^ e) ^ 93 = (2 ^ 93) ^ e := by
          rw [← zpow_natCast, ← zpow_mul, mul_comm, zpow_mul]
          rfl
      _ ≤ (10 ^ 28) ^ e := zpow_le_zpow_left₀ he (by norm_num) (by norm_num)
      _ = 10 ^ (28 * e) := by rw [zpow_mul]; rfl
      _ ≤ 10 ^ (93 * j) := zpow_le_zpow_right₀ hten h'
      _ = (10 ^ j) ^ 93 := by rw [← zpow_natCast, ← zpow_mul, mul_comm]; rfl
  · obtain ⟨k, rfl⟩ : ∃ k, e = -k := ⟨-e, (neg_neg e).symm⟩
    rw [← pow_le_pow_iff_left₀ (by positivity) (by positivity) (by norm_num : 10 ≠ 0)]
    calc ((2 : ℚ) ^ (-k)) ^ 10 = ((2 ^ 10) ^ k)⁻¹ := by
          rw [← zpow_natCast, ← zpow_mul, ← zpow_neg, ← zpow_natCast, ← zpow_mul]
          congr 1
          ring
      _ ≤ ((10 ^ 3) ^ k)⁻¹ := by
          gcongr
          exact zpow_le_zpow_left₀ (by omega) (by norm_num) (by norm_num)
      _ = 10 ^ (3 * -k) := by rw [mul_neg, zpow_neg, zpow_mul]; rfl
      _ ≤ 10 ^ (10 * j) := zpow_le_zpow_right₀ hten h
      _ = (10 ^ j) ^ 10 := by rw [← zpow_natCast, ← zpow_mul, mul_comm]; rfl

theorem ten_zpow_le_two_zpow {e j : Int} (h : 10 * j ≤ 3 * e) (h' : 93 * j ≤ 28 * e) :
    (10 : ℚ) ^ j ≤ 2 ^ e := by
  have hflip := two_zpow_le_ten_zpow (e := -e) (j := -j) (by omega) (by omega)
  rw [zpow_neg, zpow_neg] at hflip
  exact (inv_le_inv₀ (by positivity) (by positivity)).mp hflip

end ScriptHost
