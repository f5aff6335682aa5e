import Mathlib
import ScriptHost.Proofs.Number.Nearest
import ScriptHost.Proofs.Number.Powers

/-!
# Rounding a quotient

`ofRatio` looks for the exponent of a quotient, rounds what is left to an integer, and puts
sign, exponent and integer into a pattern.  Each step has one fact: the quotient is below
`2 ^ 53` units of the exponent, and not below `2 ^ 52` unless the exponent is the least
(`binade_spec`); the integer is a nearest one, and even if there are two (`roundScaled_spec`);
the pattern is the one at the rank of that integer of units (`ofScaled_eq`).  Together they say
that the result has the rank that owns the quotient, or is infinite if that rank is beyond all
finite ones.

A decimal is a quotient, behind two guards against powers of ten that are far too large.
-/

namespace ScriptHost.Double

variable {n d m k b c : Nat} {q : Int} {v : ℚ} {negative : Bool}

/-! ## To the nearest integer -/

/-- An integer that is nearest to a number, an even one if there are two. -/
structure Rounds (k : Nat) (v : ℚ) : Prop where
  low : (2 * k - 1 : ℚ) ≤ 2 * v
  high : 2 * v ≤ 2 * k + 1
  odd : k % 2 = 1 → (2 * k - 1 : ℚ) < 2 * v ∧ 2 * v < 2 * k + 1

theorem roundDiv_spec (n : Nat) (hd : 0 < d) : Rounds (roundDiv n d) (n / d) := by
  have hdq : (0 : ℚ) < d := by exact_mod_cast hd
  obtain ⟨k, r, hn, hr, hk, hmod⟩ : ∃ k r, n = d * k + r ∧ r < d ∧ n / d = k ∧ n % d = r :=
    ⟨_, _, (Nat.div_add_mod n d).symm, Nat.mod_lt n hd, rfl, rfl⟩
  have hv : (n : ℚ) / d = k + r / d := by
    rw [hn]
    push_cast
    field_simp
  have hrest : (0 : ℚ) ≤ r / d := by positivity
  have hone : (r : ℚ) / d < 1 := by
    rw [div_lt_one hdq]
    exact_mod_cast hr
  have hsucc : ((k + 1 : Nat) : ℚ) = k + 1 := Nat.cast_succ k
  rw [roundDiv, hk, hmod, hv]
  -- Which side of the half the quotient is on is a matter of the remainder.
  rcases lt_trichotomy (2 * r) d with hlt | heq | hgt
  · have hhalf : 2 * ((r : ℚ) / d) < 1 := by
      rw [← mul_div_assoc, div_lt_one hdq]
      exact_mod_cast hlt
    simp only [if_pos hlt]
    exact ⟨by linarith, by linarith, fun _ => ⟨by linarith, by linarith⟩⟩
  · have hhalf : 2 * ((r : ℚ) / d) = 1 := by
      rw [← mul_div_assoc, div_eq_one_iff_eq hdq.ne']
      exact_mod_cast heq
    simp only [heq, lt_irrefl, if_false]
    -- A half goes to the even neighbour.
    rcases Nat.mod_two_eq_zero_or_one k with heven | hodd
    · rw [heven, Nat.add_zero]
      exact ⟨by linarith, by linarith, fun h => absurd h (by omega)⟩
    · rw [hodd]
      exact ⟨by linarith, by linarith, fun h => absurd h (by omega)⟩
  · have hhalf : 1 < 2 * ((r : ℚ) / d) := by
      rw [← mul_div_assoc, one_lt_div hdq]
      exact_mod_cast hgt
    simp only [if_neg (not_lt.mpr hgt.le), if_pos hgt]
    exact ⟨by linarith, by linarith, fun _ => ⟨by linarith, by linarith⟩⟩

/-- A power of two with a nonnegative or a negated exponent. -/
private theorem zpow_toNat {q : Int} (hq : 0 ≤ q) : (2 : ℚ) ^ q = (2 ^ q.toNat : Nat) := by
  conv_lhs => rw [← Int.toNat_of_nonneg hq]
  rw [zpow_natCast]
  norm_cast

private theorem zpow_neg_toNat {q : Int} (hq : q ≤ 0) :
    (2 : ℚ) ^ q = ((2 ^ (-q).toNat : Nat) : ℚ)⁻¹ := by
  rw [← zpow_toNat (by omega), ← zpow_neg, neg_neg]

theorem roundScaled_spec (n : Nat) (hd : 0 < d) (q : Int) :
    Rounds (roundScaled n d q) (n / d / 2 ^ q) := by
  unfold roundScaled
  simp only [Nat.pow_eq]
  split
  · next hq =>
      have hspec := roundDiv_spec n (Nat.mul_pos hd (Nat.two_pow_pos q.toNat))
      rwa [zpow_toNat hq, div_div, ← Nat.cast_mul]
  · next hq =>
      have hspec := roundDiv_spec (n * 2 ^ (-q).toNat) hd
      rw [zpow_neg_toNat (by omega), div_inv_eq_mul, div_mul_eq_mul_div, ← Nat.cast_mul]
      exact hspec

/-! ## The exponent -/

/-- The comparison that the search for the exponent makes. -/
private theorem reaches_iff (n : Nat) (hd : 0 < d) (q : Int) :
    (if 0 ≤ q then decide (d * Nat.pow 2 (52 + q.toNat) ≤ n)
      else decide (d * Nat.pow 2 52 ≤ n * Nat.pow 2 (-q).toNat)) = true ↔
      (2 : ℚ) ^ 52 * 2 ^ q ≤ n / d := by
  have hdq : (0 : ℚ) < d := by exact_mod_cast hd
  simp only [Nat.pow_eq]
  split
  · next hq =>
      rw [decide_eq_true_eq, zpow_toNat hq, le_div_iff₀ hdq, ← Nat.cast_le (α := ℚ)]
      push_cast
      rw [pow_add, mul_comm]
  · next hq =>
      have hpos : (0 : ℚ) < (2 ^ (-q).toNat : Nat) := by positivity
      rw [decide_eq_true_eq, zpow_neg_toNat (by omega), ← div_eq_mul_inv, div_le_div_iff₀ hpos hdq,
        ← Nat.cast_le (α := ℚ), mul_comm d]
      norm_num

private theorem log2_bounds (hn : 0 < n) :
    (2 : ℚ) ^ (Nat.log2 n : Int) ≤ n ∧ (n : ℚ) < 2 ^ ((Nat.log2 n : Int) + 1) := by
  have hlow : 2 ^ Nat.log2 n ≤ n := Nat.log2_self_le hn.ne'
  have hhigh : n < 2 ^ (Nat.log2 n + 1) := Nat.lt_log2_self
  constructor
  · rw [zpow_natCast]
    exact_mod_cast hlow
  · have hcast : (Nat.log2 n : Int) + 1 = (Nat.log2 n + 1 : Nat) := rfl
    rw [hcast, zpow_natCast]
    exact_mod_cast hhigh

/-- The logarithms of numerator and denominator give the quotient up to a factor of two in
either direction. -/
private theorem log2_quotient (hn : 0 < n) (hd : 0 < d) :
    (2 : ℚ) ^ ((Nat.log2 n : Int) - Nat.log2 d - 1) < n / d ∧
      (n : ℚ) / d < 2 ^ ((Nat.log2 n : Int) - Nat.log2 d + 1) := by
  have hdq : (0 : ℚ) < d := by exact_mod_cast hd
  obtain ⟨hnlow, hnhigh⟩ := log2_bounds hn
  obtain ⟨hdlow, hdhigh⟩ := log2_bounds hd
  constructor
  · have hsplit : (Nat.log2 n : Int) = Nat.log2 n - Nat.log2 d - 1 + (Nat.log2 d + 1) := by omega
    rw [lt_div_iff₀ hdq]
    calc (2 : ℚ) ^ ((Nat.log2 n : Int) - Nat.log2 d - 1) * d
        < 2 ^ ((Nat.log2 n : Int) - Nat.log2 d - 1) * 2 ^ ((Nat.log2 d : Int) + 1) := by gcongr
      _ = 2 ^ (Nat.log2 n : Int) := by rw [← zpow_add₀ two_ne_zero, ← hsplit]
      _ ≤ n := hnlow
  · have hsplit : (Nat.log2 n : Int) + 1 = Nat.log2 n - Nat.log2 d + 1 + Nat.log2 d := by omega
    rw [div_lt_iff₀ hdq]
    calc (n : ℚ) < 2 ^ ((Nat.log2 n : Int) + 1) := hnhigh
      _ = 2 ^ ((Nat.log2 n : Int) - Nat.log2 d + 1) * 2 ^ (Nat.log2 d : Int) := by
          rw [← zpow_add₀ two_ne_zero, ← hsplit]
      _ ≤ 2 ^ ((Nat.log2 n : Int) - Nat.log2 d + 1) * d := by gcongr

/-- A quotient lies in the binade that is found, or below it if it is the lowest. -/
theorem binade_spec (hn : 0 < n) (hd : 0 < d) : -1074 ≤ binade n d ∧
    (n : ℚ) / d < 2 ^ 53 * 2 ^ binade n d ∧
    ((2 : ℚ) ^ 52 * 2 ^ binade n d ≤ n / d ∨ binade n d = -1074) := by
  obtain ⟨hlower, hupper⟩ := log2_quotient hn hd
  have hshift (k : Nat) (p : Int) : (2 : ℚ) ^ k * 2 ^ p = 2 ^ (k + p) := by
    rw [zpow_add₀ two_ne_zero, zpow_natCast]
  obtain ⟨p, hp, hplow, hphigh⟩ : ∃ p : Int, binade n d = max p (-1074) ∧
      (2 : ℚ) ^ 52 * 2 ^ p ≤ n / d ∧ (n : ℚ) / d < 2 ^ 53 * 2 ^ p := by
    -- The logarithms tell the binade but for one, and a comparison tells which it is.
    obtain ⟨q, hq⟩ : ∃ q : Int, q = (Nat.log2 n : Int) - Nat.log2 d - 52 := ⟨_, rfl⟩
    have hreaches := reaches_iff n hd q
    by_cases hin : (2 : ℚ) ^ 52 * 2 ^ q ≤ n / d
    · refine ⟨q, ?_, hin, hupper.trans_le ?_⟩
      · simp only [binade, ← hq]
        rw [if_pos (hreaches.mpr hin)]
      · rw [hshift]
        exact zpow_le_zpow_right₀ one_le_two (by omega)
    · refine ⟨q - 1, ?_, ?_, lt_of_lt_of_le (not_le.mp hin) ?_⟩
      · simp only [binade, ← hq]
        rw [if_neg fun h => hin (hreaches.mp h)]
      · rw [hshift]
        exact (zpow_le_zpow_right₀ one_le_two (by omega)).trans hlower.le
      · rw [hshift, hshift]
        exact zpow_le_zpow_right₀ one_le_two (by omega)
  rw [hp]
  rcases le_total (-1074) p with hle | hle
  · rw [max_eq_left hle]
    exact ⟨hle, hphigh, .inl hplow⟩
  · rw [max_eq_right hle]
    refine ⟨le_rfl, hphigh.trans_le ?_, .inr rfl⟩
    gcongr
    exact one_le_two

/-! ## The pattern -/

private theorem limit_fields (negative : Bool) (e : Nat) {f : Nat} (hf : f < 2 ^ 52) :
    (if 2047 ≤ e then infinity negative else ofFields negative e f) =
      ofRank negative (min (e * 2 ^ 52 + f) infiniteRank) := by
  split
  · have hmin : min (e * 2 ^ 52 + f) infiniteRank = 2047 * 2 ^ 52 + 0 := by
      unfold infiniteRank
      omega
    rw [hmin]
    exact ofFields_eq_ofRank negative 2047 (Nat.two_pow_pos 52)
  · have hmin : min (e * 2 ^ 52 + f) infiniteRank = e * 2 ^ 52 + f := by
      unfold infiniteRank
      omega
    rw [hmin]
    exact ofFields_eq_ofRank negative e hf

/-- A significand and an exponent become the pattern at their rank. -/
theorem ofScaled_eq (hq : -1074 ≤ q) (hm : m ≤ 2 ^ 53) (hfull : 2 ^ 52 ≤ m ∨ q = -1074) :
    ofScaled negative m q =
      ofRank negative (min ((q + 1074).toNat * 2 ^ 52 + m) infiniteRank) := by
  unfold ofScaled
  simp only [Nat.pow_eq]
  split
  · next hsmall =>
      have hrank : (q + 1074).toNat * 2 ^ 52 + m = 0 * 2 ^ 52 + m := by omega
      rw [hrank, ← limit_fields negative 0 hsmall, if_neg (by decide)]
  · next hlarge =>
      rcases eq_or_ne m (2 ^ 53) with rfl | hne
      · have hrank : (q + 1074).toNat * 2 ^ 52 + 2 ^ 53 = (q + 1 + 1075).toNat * 2 ^ 52 + 0 := by
          omega
        rw [if_pos rfl, if_pos rfl, Nat.sub_self, hrank, limit_fields _ _ (Nat.two_pow_pos 52)]
      · have hrank : (q + 1074).toNat * 2 ^ 52 + m =
            (q + 1075).toNat * 2 ^ 52 + (m - 2 ^ 52) := by omega
        rw [if_neg hne, if_neg hne, hrank, limit_fields _ _ (by omega)]

/-! ## The quotient -/

section Units

variable {e : Nat}

/-- The units at a rank and at the rank below are those of the exponent, except at the lower end
of a binade, where the unit below is half as large. -/
private theorem exponentAt_units (hq : q = (e : Int) - 1074) (hm : m ≤ 2 ^ 53)
    (hfull : 2 ^ 52 ≤ m ∨ q = -1074) :
    q ≤ exponentAt (e * 2 ^ 52 + m) ∧
      (0 < m → m ≠ 2 ^ 52 ∨ q = -1074 → exponentAt (e * 2 ^ 52 + m - 1) = q) := by
  unfold exponentAt
  constructor <;> omega

/-- A number that rounds to an integer of units is owned by the rank of that integer. -/
theorem Rounds.owns (hq : -1074 ≤ q) (hnonneg : 0 ≤ v) (hbelow : v < 2 ^ 53 * 2 ^ q)
    (hfull : 2 ^ 52 * 2 ^ q ≤ v ∨ q = -1074) (h : Rounds m (v / 2 ^ q)) :
    m ≤ 2 ^ 53 ∧ (2 ^ 52 ≤ m ∨ q = -1074) ∧ Owns ((q + 1074).toNat * 2 ^ 52 + m) v := by
  have hunit : (0 : ℚ) < 2 ^ q := zpow_pos two_pos q
  -- In units of the exponent.
  obtain ⟨t, ht⟩ : ∃ t : ℚ, t = v / 2 ^ q := ⟨_, rfl⟩
  have hv : v = t * 2 ^ q := by rw [ht, div_mul_cancel₀ _ hunit.ne']
  rw [← ht] at h
  rw [hv] at hnonneg hbelow hfull ⊢
  have htpos : 0 ≤ t := nonneg_of_mul_nonneg_left hnonneg hunit
  have htlt : t < 2 ^ 53 := lt_of_mul_lt_mul_right hbelow hunit.le
  have htfull : 2 ^ 52 ≤ t ∨ q = -1074 := hfull.imp_left fun hle => le_of_mul_le_mul_right hle hunit
  have hm : m ≤ 2 ^ 53 := by
    have hlow := h.low
    have hlt : (2 * m : ℚ) < 2 * 2 ^ 53 + 1 := by linarith
    have hlt' : 2 * m < 2 * 2 ^ 53 + 1 := by exact_mod_cast hlt
    omega
  have hmfull : 2 ^ 52 ≤ m ∨ q = -1074 := by
    refine htfull.imp_left fun hle => ?_
    have hhigh := h.high
    have hlt : (2 * 2 ^ 52 : ℚ) ≤ 2 * m + 1 := by linarith
    have hlt' : 2 * 2 ^ 52 ≤ 2 * m + 1 := by exact_mod_cast hlt
    omega
  refine ⟨hm, hmfull, ?_⟩
  have hsize := sizeAt_scaled hq hm hmfull
  obtain ⟨e, he⟩ : ∃ e : Nat, (q + 1074).toNat = e := ⟨_, rfl⟩
  rw [he] at hsize ⊢
  obtain ⟨habove, hbelow⟩ := exponentAt_units (e := e) (by omega) hm hmfull
  obtain ⟨b, hb⟩ : ∃ b : Nat, b = e * 2 ^ 52 + m := ⟨_, rfl⟩
  have hparity : b % 2 = m % 2 := by omega
  rw [← hb] at hsize habove hbelow ⊢
  have hnext : (m + 1 : ℚ) * 2 ^ q ≤ sizeAt (b + 1) := by
    have hle : (2 : ℚ) ^ q ≤ 2 ^ exponentAt b := zpow_le_zpow_right₀ one_le_two habove
    rw [sizeAt_succ, hsize]
    linarith
  have hprev : sizeAt (b - 1) ≤ (m - 1 : ℚ) * 2 ^ q ∨ (m : ℚ) ≤ t ∧ m % 2 = 0 := by
    rcases Nat.eq_zero_or_pos m with rfl | hpos
    · exact .inr ⟨by simpa using htpos, rfl⟩
    · by_cases hcase : m ≠ 2 ^ 52 ∨ q = -1074
      · have hstep := sizeAt_succ (b - 1)
        rw [Nat.sub_add_cancel (by omega), hbelow hpos hcase, hsize] at hstep
        exact .inl (by linarith)
      · obtain ⟨rfl, hne⟩ : m = 2 ^ 52 ∧ q ≠ -1074 := by omega
        refine .inr ⟨?_, by decide⟩
        rw [Nat.cast_pow, Nat.cast_ofNat]
        exact htfull.resolve_right hne
  refine ⟨?_, ?_, fun hodd => ⟨?_, ?_⟩⟩
  · rw [hsize]
    rcases hprev with hprev | ⟨hle, -⟩
    · have := mul_le_mul_of_nonneg_right h.low hunit.le
      linarith
    · have hmono : sizeAt (b - 1) ≤ sizeAt b := sizeAt_strictMono.monotone (Nat.sub_le b 1)
      have := mul_le_mul_of_nonneg_right hle hunit.le
      rw [hsize] at hmono
      linarith
  · rw [hsize]
    have := mul_le_mul_of_nonneg_right h.high hunit.le
    linarith
  · rw [hsize]
    rcases hprev with hprev | ⟨-, heven⟩
    · have := mul_lt_mul_of_pos_right (h.odd (by omega)).1 hunit
      linarith
    · omega
  · rw [hsize]
    have := mul_lt_mul_of_pos_right (h.odd (by omega)).2 hunit
    linarith

end Units

theorem ofRatio_eq (hd : 0 < d) (h : Owns c (n / d)) :
    ofRatio negative n d = ofRank negative (min c infiniteRank) := by
  rcases Nat.eq_zero_or_pos n with rfl | hn
  · have hzero : Owns 0 (((0 : Nat) : ℚ) / d) := by
      rw [Nat.cast_zero, zero_div, ← sizeAt_zero]
      exact owns_sizeAt 0
    rw [h.unique hzero]
    exact ofFields_eq_ofRank negative 0 (Nat.two_pow_pos 52)
  · obtain ⟨hleast, hbelow, hfull⟩ := binade_spec hn hd
    obtain ⟨hm, hmfull, howns⟩ :=
      (roundScaled_spec n hd (binade n d)).owns hleast (by positivity) hbelow hfull
    rw [ofRatio, if_neg hn.ne', ofScaled_eq hleast hm hmfull, h.unique howns]

/-! ## The decimal -/

/-- The smallest decimal that is taken for infinity is beyond the largest finite double. -/
private theorem infinite_of_large {digits : Nat} {exponent : Int} (hdigits : digits ≠ 0)
    (hexponent : 400 < exponent) : (2 : ℚ) ^ (1024 : Int) ≤ digits * 10 ^ exponent := by
  have hone : (1 : ℚ) ≤ digits := by exact_mod_cast Nat.one_le_iff_ne_zero.mpr hdigits
  calc (2 : ℚ) ^ (1024 : Int) ≤ 10 ^ (400 : Int) := two_zpow_le_ten_zpow (by omega) (by omega)
    _ ≤ 10 ^ exponent := zpow_le_zpow_right₀ (by norm_num) hexponent.le
    _ ≤ digits * 10 ^ exponent := le_mul_of_one_le_left (by positivity) hone

/-- The largest decimal that is taken for zero is below the middle of the first step. -/
private theorem zero_of_small {digits : Nat} {exponent : Int} (hdigits : digits ≠ 0)
    (hexponent : exponent < -400 - (Nat.log2 digits : Int)) :
    2 * (digits * 10 ^ exponent : ℚ) ≤ 2 ^ (-1074 : Int) := by
  obtain ⟨-, hlog⟩ := log2_bounds (Nat.pos_of_ne_zero hdigits)
  obtain ⟨l, hl⟩ : ∃ l : Nat, Nat.log2 digits = l := ⟨_, rfl⟩
  rw [hl] at hlog hexponent
  have hten : (0 : ℚ) < 10 ^ exponent := by positivity
  have hpower : (10 : ℚ) ^ exponent ≤ 2 ^ (-1076 - (l : Int)) :=
    ten_zpow_le_two_zpow (by omega) (by omega)
  calc 2 * (digits * 10 ^ exponent : ℚ) ≤ 2 * (2 ^ ((l : Int) + 1) * 2 ^ (-1076 - (l : Int))) := by
        gcongr
    _ = 2 ^ (1 + ((l : Int) + 1 + (-1076 - (l : Int)))) := by
        rw [zpow_one_add₀ two_ne_zero, zpow_add₀ two_ne_zero ((l : Int) + 1)]
    _ = 2 ^ (-1074 : Int) := by congr 1; omega

/-- Reading a decimal gives the double whose rank owns it. -/
theorem ofDecimal_eq {digits : Nat} {exponent : Int} (hc : c < infiniteRank)
    (h : Owns c (digits * 10 ^ exponent)) :
    ofDecimal negative digits exponent = ofRank negative c := by
  have hratio {n d : Nat} (hd : 0 < d) (hv : (n : ℚ) / d = digits * 10 ^ exponent) :
      ofRatio negative n d = ofRank negative c := by
    rw [ofRatio_eq hd (hv ▸ h), min_eq_left hc.le]
  -- Up to half of the least double the decimal is owned by zero.
  have hzero (hsmall : 2 * (digits * 10 ^ exponent : ℚ) ≤ 2 ^ (-1074 : Int)) :
      zero negative = ofRank negative c := by
    have howns : Owns 0 (digits * 10 ^ exponent) := by
      have hexp : exponentAt 0 = -1074 := by decide
      have hpos : (0 : ℚ) ≤ digits * 10 ^ exponent := by positivity
      refine ⟨by simpa using hpos, ?_, fun hodd => absurd hodd (by decide)⟩
      rwa [sizeAt_succ, hexp, sizeAt_zero, zero_add, zero_add]
    rw [h.unique howns]
    exact ofFields_eq_ofRank negative 0 (Nat.two_pow_pos 52)
  unfold ofDecimal
  simp only [Nat.pow_eq]
  split
  · next hdigits =>
      refine hzero ?_
      rw [hdigits, Nat.cast_zero, zero_mul, mul_zero]
      positivity
  next hdigits =>
  split
  · next hlarge =>
      -- A decimal that is too large is owned by no finite double.
      have hinfinite := infinite_of_large hdigits hlarge
      have hrange := h.inRange hc
      exact absurd (hinfinite.trans_lt hrange) (not_lt.mpr (sub_le_self _ (by positivity)))
  split
  · next hexponent =>
      refine hratio one_pos ?_
      conv_rhs => rw [← Int.toNat_of_nonneg hexponent, zpow_natCast]
      push_cast
      rw [div_one]
  · next hnegative =>
      split
      · next hsmall => exact hzero (zero_of_small hdigits hsmall)
      · refine hratio (Nat.pow_pos (by decide)) ?_
        have hflip : exponent = -((-exponent).toNat : Int) := by omega
        conv_rhs => rw [hflip, zpow_neg, zpow_natCast]
        push_cast
        rw [div_eq_mul_inv]

end ScriptHost.Double
