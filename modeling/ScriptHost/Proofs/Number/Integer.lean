import Mathlib
import ScriptHost.Number.Double

/-!
# Integers among the doubles

Which doubles are integers is read off their fields, and an integer is made into a double
by rounding.  For a double that is an integer the two are inverse to each other: its
significand already has fifty-three bits, so the binade that rounding looks for is the
one that its exponent names, and nothing is left to round.  Negative zero is the one
exception, since no integer tells it from zero.
-/

namespace ScriptHost.Double

variable {x : Double}

/-! ## A pattern and its fields -/

private theorem toNat_bits_lt (x : Double) : x.bits.toNat < 18446744073709551616 :=
  x.bits.toNat_lt

theorem exponentField_lt (x : Double) : x.exponentField < 2048 := Nat.mod_lt _ (by decide)

theorem fractionField_lt (x : Double) : x.fractionField < 4503599627370496 :=
  Nat.mod_lt _ (by decide)

/-- A pattern is put together again from its fields. -/
theorem ofFields_fields (x : Double) :
    ofFields x.negative x.exponentField x.fractionField = x := by
  have hlt := toNat_bits_lt x
  have hbits : (if x.negative then Nat.pow 2 63 else 0) + x.exponentField * Nat.pow 2 52 +
      x.fractionField = x.bits.toNat := by
    have h63 : Nat.pow 2 63 = 9223372036854775808 := rfl
    have h52 : Nat.pow 2 52 = 4503599627370496 := rfl
    have h11 : Nat.pow 2 11 = 2048 := rfl
    simp only [negative, exponentField, fractionField, h63, h52, h11, decide_eq_true_eq]
    split
    · omega
    · omega
  unfold ofFields
  rw [hbits, UInt64.ofNat_toNat]

/-! ## Rounding what is exact -/

theorem roundDiv_mul (m : Nat) {d : Nat} (hd : 0 < d) : roundDiv (m * d) d = m := by
  have hquot : m * d / d = m := Nat.mul_div_cancel m hd
  have hrest : m * d % d = 0 := Nat.mul_mod_left m d
  simp only [roundDiv, hquot, hrest, Nat.mul_zero, if_pos hd]

/-- A significand of fifty-three bits. -/
def Full (s : Nat) : Prop := 2 ^ 52 ≤ s ∧ s < 2 ^ 53

theorem Full.log2 {s : Nat} (hs : Full s) : Nat.log2 s = 52 :=
  (Nat.log2_eq_iff (by have := hs.1; omega)).mpr hs

section Scaled

variable {m s : Nat} {q : Int}

/-- The integer `m` is `s · 2 ^ q`. -/
structure Scaled (m s : Nat) (q : Int) : Prop where
  full : Full s
  least : -1074 ≤ q
  up : 0 ≤ q → m = s * 2 ^ q.toNat
  down : q < 0 → m * 2 ^ (-q).toNat = s

theorem Scaled.pos (h : Scaled m s q) : 0 < m := by
  have hs : 0 < s := Nat.lt_of_lt_of_le (by decide) h.full.1
  rcases lt_or_ge q 0 with hq | hq
  · rw [← h.down hq] at hs
    exact Nat.pos_of_mul_pos_right hs
  · rw [h.up hq]
    exact Nat.mul_pos hs (Nat.two_pow_pos _)

/-- Scaling by a power of two moves the logarithm by its exponent. -/
theorem log2_mul_two_pow (hm : 0 < m) (k : Nat) : Nat.log2 (m * 2 ^ k) = Nat.log2 m + k := by
  have hne : m * 2 ^ k ≠ 0 := Nat.mul_ne_zero (by omega) (Nat.two_pow_pos k).ne'
  have hlow : 2 ^ Nat.log2 m ≤ m := Nat.log2_self_le (by omega)
  have hhigh : m < 2 ^ (Nat.log2 m + 1) := Nat.lt_log2_self
  refine (Nat.log2_eq_iff hne).mpr ⟨?_, ?_⟩
  · rw [Nat.pow_add]
    exact Nat.mul_le_mul_right _ hlow
  · calc m * 2 ^ k < 2 ^ (Nat.log2 m + 1) * 2 ^ k :=
          Nat.mul_lt_mul_of_pos_right hhigh (Nat.two_pow_pos k)
      _ = 2 ^ (Nat.log2 m + k + 1) := by rw [← Nat.pow_add]; congr 1; omega

theorem Scaled.log2 (h : Scaled m s q) : (Nat.log2 m : Int) = q + 52 := by
  have hlog := h.full.log2
  rcases lt_or_ge q 0 with hq | hq
  · rw [← h.down hq, log2_mul_two_pow h.pos] at hlog
    omega
  · rw [h.up hq, log2_mul_two_pow (Nat.lt_of_lt_of_le (by decide) h.full.1), hlog]
    omega

/-- The binade of an integer is the exponent at which its significand is full. -/
theorem Scaled.binade (h : Scaled m s q) : binade m 1 = q := by
  have hstart : (Nat.log2 m : Int) - (Nat.log2 1 : Int) - 52 = q := by
    have hone : Nat.log2 1 = 0 := by decide
    rw [h.log2, hone]
    omega
  have hreaches : (if 0 ≤ q then decide (1 * Nat.pow 2 (52 + q.toNat) ≤ m)
      else decide (1 * Nat.pow 2 52 ≤ m * Nat.pow 2 (-q).toNat)) = true := by
    simp only [Nat.pow_eq, Nat.one_mul]
    split
    · rename_i hq
      rw [h.up hq, Nat.pow_add, decide_eq_true_eq]
      exact Nat.mul_le_mul_right _ h.full.1
    · rename_i hq
      rw [h.down (by omega), decide_eq_true_eq]
      exact h.full.1
  simp only [Double.binade, hstart]
  rw [if_pos hreaches]
  exact max_eq_left h.least

theorem Scaled.roundScaled (h : Scaled m s q) : roundScaled m 1 q = s := by
  simp only [Double.roundScaled, Nat.pow_eq, Nat.one_mul]
  split
  · rename_i hq
    rw [h.up hq]
    exact roundDiv_mul s (Nat.two_pow_pos _)
  · rename_i hq
    have hone := roundDiv_mul s Nat.one_pos
    rw [Nat.mul_one] at hone
    rw [h.down (by omega), hone]

/-- Rounding an integer whose significand is full keeps significand and exponent. -/
theorem Scaled.ofRatio (h : Scaled m s q) (negative : Bool) :
    ofRatio negative m 1 = ofScaled negative s q := by
  rw [Double.ofRatio, if_neg h.pos.ne']
  simp only [h.binade, h.roundScaled]

end Scaled

/-! ## From a double to an integer and back -/

/-- A subnormal number and zero are too small to be an integer other than zero. -/
private theorem natAbs?_subnormal {m : Nat} (hfield : x.exponentField = 0)
    (h : x.natAbs? = some m) : m = 0 ∧ x.fractionField = 0 := by
  have hsmall {k : Nat} (hk : 52 ≤ k) : x.fractionField < 2 ^ k :=
    Nat.lt_of_lt_of_le x.fractionField_lt (Nat.pow_le_pow_right Nat.two_pos hk)
  unfold natAbs? significand exponent at h
  rw [if_pos hfield, if_pos hfield] at h
  split at h
  · rw [if_neg (by decide)] at h
    have hexp : (-(-1074 : Int)).toNat = 1074 := rfl
    rw [hexp] at h
    simp only [Nat.pow_eq, Nat.mod_eq_of_lt (hsmall (by decide : 52 ≤ 1074)),
      Nat.div_eq_of_lt (hsmall (by decide : 52 ≤ 1074))] at h
    split at h
    · exact ⟨(Option.some.inj h).symm, ‹_›⟩
    · cases h
  · cases h

/-- The absolute value of a normal number that is an integer is its significand, scaled. -/
private theorem scaled_of_natAbs? {m : Nat} (hfield : x.exponentField ≠ 0)
    (h : x.natAbs? = some m) : Scaled m x.significand x.exponent := by
  have hfraction := x.fractionField_lt
  have h52 : Nat.pow 2 52 = 4503599627370496 := rfl
  have hsig : x.significand = x.fractionField + 4503599627370496 := by
    rw [significand, if_neg hfield, h52]
  have hexp : x.exponent = (x.exponentField : Int) - 1075 := by rw [exponent, if_neg hfield]
  have hpos : 0 < x.exponentField := Nat.pos_of_ne_zero hfield
  have hfull : Full x.significand := by
    unfold Full
    omega
  have hleast : -1074 ≤ x.exponent := by omega
  unfold natAbs? at h
  simp only [Nat.pow_eq] at h
  split at h
  · split at h
    · rename_i hq
      exact ⟨hfull, hleast, fun _ => (Option.some.inj h).symm, fun hneg => absurd hq (by omega)⟩
    · rename_i hq
      split at h
      · rename_i hdvd
        have hm := Option.some.inj h
        refine ⟨hfull, hleast, fun hpos => absurd hpos hq, fun _ => ?_⟩
        rw [← hm]
        exact Nat.div_mul_cancel (Nat.dvd_of_mod_eq_zero hdvd)
      · cases h
  · cases h

/-- A normal number is put together again from its significand and its exponent. -/
private theorem ofScaled_normal (hfinite : x.isFinite = true) (hfield : x.exponentField ≠ 0) :
    ofScaled x.negative x.significand x.exponent = x := by
  have hfraction := x.fractionField_lt
  have hexponent := x.exponentField_lt
  have h52 : Nat.pow 2 52 = 4503599627370496 := rfl
  have h53 : Nat.pow 2 53 = 9007199254740992 := rfl
  have hsig : x.significand = x.fractionField + 4503599627370496 := by
    rw [significand, if_neg hfield, h52]
  have hexp : x.exponent = (x.exponentField : Int) - 1075 := by rw [exponent, if_neg hfield]
  have hbelow : x.exponentField ≠ 2047 := by simpa [isFinite] using hfinite
  have hcarry : x.significand ≠ Nat.pow 2 53 := by omega
  have hnormal : ¬x.significand < Nat.pow 2 52 := by omega
  have hback : (x.exponent + 1075).toNat = x.exponentField := by omega
  have hrest : x.significand - Nat.pow 2 52 = x.fractionField := by omega
  have hfits : ¬2047 ≤ x.exponentField := by omega
  simp only [ofScaled, if_neg hnormal, if_neg hcarry, hback, hrest, if_neg hfits]
  exact ofFields_fields x

theorem isFinite_of_natAbs? {m : Nat} (h : x.natAbs? = some m) : x.isFinite = true := by
  unfold natAbs? at h
  split at h
  · assumption
  · cases h

/-- A double with an integer for its absolute value is that integer with its sign. -/
theorem ofRatio_natAbs? {m : Nat} (h : x.natAbs? = some m) : ofRatio x.negative m 1 = x := by
  by_cases hfield : x.exponentField = 0
  · obtain ⟨rfl, hfraction⟩ := natAbs?_subnormal hfield h
    have hfields := ofFields_fields x
    rw [hfield, hfraction] at hfields
    exact hfields
  · rw [(scaled_of_natAbs? hfield h).ofRatio]
    exact ofScaled_normal (isFinite_of_natAbs? h) hfield

theorem toInt?_eq_some {n : Int} (h : x.toInt? = some n) :
    ∃ m, x.natAbs? = some m ∧ n = if x.negative then -(m : Int) else (m : Int) := by
  unfold toInt? at h
  cases hm : x.natAbs? with
  | none => rw [hm] at h; cases h
  | some m =>
      rw [hm] at h
      exact ⟨m, rfl, (Option.some.inj h).symm⟩

/-- The double of an integer that a double is, is that double, unless it is negative
zero. -/
theorem ofInt_toInt? {n : Int} (h : x.toInt? = some n) (hzero : ¬(x.negative = true ∧ n = 0)) :
    ofInt n = x := by
  obtain ⟨m, hm, rfl⟩ := toInt?_eq_some h
  have hround := ofRatio_natAbs? hm
  unfold ofInt
  cases hneg : x.negative with
  | false =>
      have hsign : decide ((m : Int) < 0) = false := decide_eq_false (by omega)
      rw [hneg] at hround
      simpa only [Bool.false_eq_true, if_false, hsign, Int.natAbs_natCast] using hround
  | true =>
      have hpos : m ≠ 0 := fun hm0 => hzero ⟨hneg, by simp [hneg, hm0]⟩
      have hsign : decide (-(m : Int) < 0) = true := decide_eq_true (by omega)
      rw [hneg] at hround
      simpa only [if_true, hsign, Int.natAbs_neg, Int.natAbs_natCast] using hround

/-! ## Integers of thirty-two bits -/

theorem toInt?_of_toInt32? {n : Int} (h : x.toInt32? = some n) :
    x.toInt? = some n ∧ fitsInt32 n = true ∧ ¬(x.negative = true ∧ n = 0) := by
  unfold toInt32? at h
  split at h
  · rename_i k hk
    split at h
    · rename_i hfits
      cases h
      simp only [Bool.and_eq_true, Bool.not_eq_true', Bool.and_eq_false_iff, beq_eq_false_iff_ne]
        at hfits
      exact ⟨hk, hfits.1, fun hand => hfits.2.elim (fun hneg => by simp [hand.1] at hneg)
        fun hne => hne hand.2⟩
    · cases h
  · cases h

/-- A number that is kept as a small integer is read back bit by bit. -/
theorem ofInt_toInt32? {n : Int} (h : x.toInt32? = some n) :
    ofInt (Int32.ofInt n).toInt = x := by
  obtain ⟨hint, hfits, hzero⟩ := toInt?_of_toInt32? h
  have hback : (Int32.ofInt n).toInt = n := by
    simp only [fitsInt32, decide_eq_true_eq] at hfits
    exact Int32.toInt_ofInt_of_le hfits.1 (by omega)
  rw [hback]
  exact ofInt_toInt? hint hzero

end ScriptHost.Double
