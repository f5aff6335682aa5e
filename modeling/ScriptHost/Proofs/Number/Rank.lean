import Mathlib
import ScriptHost.Proofs.Number.Integer

/-!
# Doubles in order

The pattern of a double without its sign bit is a number below `2 ^ 63`, its *rank*, and the
ranks are in the order of the magnitudes: from one rank to the next the magnitude grows by
`2 ^ q`, where `q` is the exponent, and this holds across the end of a binade and from the
subnormal to the normal numbers as well.  The rank after the largest finite one is infinity, and
the rule gives it the magnitude `2 ^ 1024`, which is where rounding starts to overflow.

So the doubles are a strictly increasing sequence, and rounding is best said of it: the real
numbers that round to a rank lie between the middle to the rank below and the middle to the rank
above, and the middles themselves belong to the even rank.  This is `Owns`.  That two ranks own
no number in common needs only that one of two neighbours is odd.
-/

namespace ScriptHost.Double

/-! ## Ranks -/

/-- The place of a double among the magnitudes. -/
def rank (x : Double) : Nat := x.bits.toNat % 2 ^ 63

/-- The significand at a rank. -/
def significandAt (b : Nat) : Nat := if b < 2 ^ 52 then b else b % 2 ^ 52 + 2 ^ 52

/-- The exponent at a rank. -/
def exponentAt (b : Nat) : Int := (max (b / 2 ^ 52) 1 : Nat) - 1075

/-- The magnitude at a rank. -/
def sizeAt (b : Nat) : ℚ := significandAt b * 2 ^ exponentAt b

/-- The rank that is infinity. -/
def infiniteRank : Nat := 2047 * 2 ^ 52

variable {x y : Double} {b c : Nat}

private theorem pow_52 : Nat.pow 2 52 = 2 ^ 52 := rfl

private theorem pow_11 : Nat.pow 2 11 = 2 ^ 11 := rfl

private theorem pow_63 : Nat.pow 2 63 = 2 ^ 63 := rfl

theorem rank_lt (x : Double) : x.rank < 2 ^ 63 := Nat.mod_lt _ (Nat.two_pow_pos 63)

theorem exponentField_eq (x : Double) : x.exponentField = x.rank / 2 ^ 52 := by
  rw [exponentField, rank, pow_52, pow_11]
  omega

theorem fractionField_eq (x : Double) : x.fractionField = x.rank % 2 ^ 52 := by
  rw [fractionField, rank, pow_52]
  omega

theorem significand_eq (x : Double) : x.significand = significandAt x.rank := by
  rw [significand, significandAt, exponentField_eq, fractionField_eq, pow_52]
  split <;> split <;> omega

theorem exponent_eq (x : Double) : x.exponent = exponentAt x.rank := by
  rw [exponent, exponentAt, exponentField_eq]
  split <;> omega

theorem isFinite_iff : x.isFinite = true ↔ x.rank < infiniteRank := by
  have := x.rank_lt
  rw [isFinite, bne_iff_ne, exponentField_eq, infiniteRank]
  omega

theorem isInfinite_iff : x.isInfinite = true ↔ x.rank = infiniteRank := by
  rw [isInfinite, Bool.and_eq_true, beq_iff_eq, beq_iff_eq, exponentField_eq, fractionField_eq,
    infiniteRank]
  omega

theorem isNaN_iff : x.isNaN = true ↔ infiniteRank < x.rank := by
  have := x.rank_lt
  rw [isNaN, Bool.and_eq_true, beq_iff_eq, bne_iff_ne, exponentField_eq, fractionField_eq,
    infiniteRank]
  omega

theorem isZero_iff : x.isZero = true ↔ x.rank = 0 := by
  rw [isZero, Bool.and_eq_true, beq_iff_eq, beq_iff_eq, exponentField_eq, fractionField_eq]
  omega

/-- A double is its sign and its rank. -/
theorem eq_of_rank (hneg : x.negative = y.negative) (hrank : x.rank = y.rank) : x = y := by
  have hx := x.bits.toNat_lt
  have hy := y.bits.toNat_lt
  have hbits : x.bits.toNat = y.bits.toNat := by
    rw [rank, rank] at hrank
    rw [negative, negative, pow_63, decide_eq_decide] at hneg
    omega
  cases x
  cases y
  exact congrArg mk (UInt64.toNat_inj.mp hbits)

/-- The double of a sign and a rank. -/
def ofRank (negative : Bool) (b : Nat) : Double := ofFields negative (b / 2 ^ 52) (b % 2 ^ 52)

theorem ofFields_eq_ofRank (negative : Bool) (e : Nat) {f : Nat} (hf : f < 2 ^ 52) :
    ofFields negative e f = ofRank negative (e * 2 ^ 52 + f) := by
  have hquot : (e * 2 ^ 52 + f) / 2 ^ 52 = e := by omega
  have hrest : (e * 2 ^ 52 + f) % 2 ^ 52 = f := by omega
  rw [ofRank, hquot, hrest]

private theorem toNat_ofRank (negative : Bool) (hb : b < 2 ^ 63) :
    (ofRank negative b).bits.toNat = (if negative then 2 ^ 63 else 0) + b := by
  have hbits : (ofRank negative b).bits =
      UInt64.ofNat ((if negative then 2 ^ 63 else 0) + b / 2 ^ 52 * 2 ^ 52 + b % 2 ^ 52) := rfl
  rw [hbits, UInt64.toNat_ofNat_of_lt']
  · split <;> omega
  · change _ < 2 ^ 64
    split <;> omega

theorem rank_ofRank (negative : Bool) (hb : b < 2 ^ 63) : (ofRank negative b).rank = b := by
  rw [rank, toNat_ofRank negative hb]
  split <;> omega

theorem negative_ofRank (negative : Bool) (hb : b < 2 ^ 63) :
    (ofRank negative b).negative = negative := by
  rw [Double.negative, toNat_ofRank negative hb, pow_63]
  cases negative
  · exact decide_eq_false (by simp only [Bool.false_eq_true, if_false]; omega)
  · exact decide_eq_true (by simp only [if_true]; omega)

theorem ofRank_rank (x : Double) : ofRank x.negative x.rank = x :=
  eq_of_rank (negative_ofRank _ x.rank_lt) (rank_ofRank _ x.rank_lt)

/-! ## Magnitudes -/

private theorem two_zpow_pos (q : Int) : (0 : ℚ) < 2 ^ q := zpow_pos two_pos q

theorem significandAt_lt (b : Nat) : significandAt b < 2 ^ 53 := by
  rw [significandAt]
  split <;> omega

/-- A rank is even if its significand is. -/
theorem significandAt_mod_two (b : Nat) : significandAt b % 2 = b % 2 := by
  rw [significandAt]
  split <;> omega

/-- A significand at the exponent `q`, which must be full unless the exponent is the least. -/
theorem sizeAt_scaled {m : Nat} {q : Int} (hq : -1074 ≤ q) (hm : m ≤ 2 ^ 53)
    (hfull : 2 ^ 52 ≤ m ∨ q = -1074) : sizeAt ((q + 1074).toNat * 2 ^ 52 + m) = m * 2 ^ q := by
  obtain ⟨e, rfl⟩ : ∃ e : Nat, q = e - 1074 := ⟨(q + 1074).toNat, by omega⟩
  have he : ((e : Int) - 1074 + 1074).toNat = e := by omega
  rw [he, sizeAt]
  rcases lt_or_ge m (2 ^ 52) with hsmall | hlarge
  · have hzero : e = 0 := by omega
    subst hzero
    have hsig : significandAt (0 * 2 ^ 52 + m) = m := by
      rw [significandAt, if_pos (by omega)]
      omega
    have hexp : exponentAt (0 * 2 ^ 52 + m) = ((0 : Nat) : Int) - 1074 := by
      rw [exponentAt]
      omega
    rw [hsig, hexp]
  · rcases Nat.lt_or_eq_of_le hm with hlt | rfl
    · have hsig : significandAt (e * 2 ^ 52 + m) = m := by
        rw [significandAt]
        split <;> omega
      have hexp : exponentAt (e * 2 ^ 52 + m) = (e : Int) - 1074 := by
        rw [exponentAt]
        omega
      rw [hsig, hexp]
    · -- The significand is one too large: half of it, at the next exponent.
      have hsig : significandAt (e * 2 ^ 52 + 2 ^ 53) = 2 ^ 52 := by
        rw [significandAt]
        split <;> omega
      have hexp : exponentAt (e * 2 ^ 52 + 2 ^ 53) = ((e : Int) - 1074) + 1 := by
        rw [exponentAt]
        omega
      rw [hsig, hexp, zpow_add_one₀ two_ne_zero]
      push_cast
      ring

/-- Every rank is a significand at an exponent. -/
theorem rank_scaled (b : Nat) : ∃ q : Int, ∃ m : Nat, -1074 ≤ q ∧ m < 2 ^ 53 ∧
    (2 ^ 52 ≤ m ∨ q = -1074) ∧ b = (q + 1074).toNat * 2 ^ 52 + m ∧ q = exponentAt b ∧
    m = significandAt b := by
  refine ⟨exponentAt b, significandAt b, ?_, significandAt_lt b, ?_, ?_, rfl, rfl⟩
  · rw [exponentAt]
    omega
  · rw [exponentAt, significandAt]
    split <;> omega
  · rw [exponentAt, significandAt]
    split <;> omega

/-- From one rank to the next the magnitude grows by one unit of the last place. -/
theorem sizeAt_succ (b : Nat) : sizeAt (b + 1) = sizeAt b + 2 ^ exponentAt b := by
  obtain ⟨q, m, hq, hm, hfull, hb, hexp, hsig⟩ := rank_scaled b
  have hnext : sizeAt ((q + 1074).toNat * 2 ^ 52 + (m + 1)) = ((m + 1 : Nat) : ℚ) * 2 ^ q :=
    sizeAt_scaled hq hm (hfull.imp_left (Nat.le_succ_of_le ·))
  rw [hb, Nat.add_assoc, hnext, ← hb, sizeAt, ← hsig, ← hexp]
  push_cast
  ring

theorem sizeAt_strictMono : StrictMono sizeAt :=
  strictMono_nat_of_lt_succ fun b => by
    rw [sizeAt_succ]
    exact lt_add_of_pos_right _ (two_zpow_pos _)

@[simp] theorem sizeAt_zero : sizeAt 0 = 0 := by simp [sizeAt, significandAt]

theorem sizeAt_nonneg (b : Nat) : 0 ≤ sizeAt b := by
  rw [← sizeAt_zero]
  exact sizeAt_strictMono.monotone (Nat.zero_le b)

theorem sizeAt_pos (hb : b ≠ 0) : 0 < sizeAt b := by
  rw [← sizeAt_zero]
  exact sizeAt_strictMono (Nat.pos_of_ne_zero hb)

theorem sizeAt_infinite : sizeAt infiniteRank = 2 ^ (1024 : Int) := by
  have hsize := sizeAt_scaled (m := 2 ^ 52) (q := 972) (by omega) (by omega) (.inl le_rfl)
  have hrank : ((972 : Int) + 1074).toNat * 2 ^ 52 + 2 ^ 52 = infiniteRank := by decide
  have hcast : ((2 ^ 52 : Nat) : ℚ) = 2 ^ (52 : Int) := by norm_cast
  rw [hrank, hcast, ← zpow_add₀ two_ne_zero] at hsize
  exact hsize

/-! ## What rounds to a rank -/

/-- The numbers that round to a rank. -/
structure Owns (b : Nat) (v : ℚ) : Prop where
  low : sizeAt (b - 1) + sizeAt b ≤ 2 * v
  high : 2 * v ≤ sizeAt b + sizeAt (b + 1)
  odd : b % 2 = 1 → sizeAt (b - 1) + sizeAt b < 2 * v ∧ 2 * v < sizeAt b + sizeAt (b + 1)

variable {v w : ℚ}

theorem Owns.nonneg (h : Owns b v) : 0 ≤ v := by
  have := h.low
  have := sizeAt_nonneg (b - 1)
  have := sizeAt_nonneg b
  linarith

/-- Rounding keeps the order. -/
theorem Owns.le (hv : Owns b v) (hw : Owns c w) (hle : v ≤ w) : b ≤ c := by
  by_contra hlt
  have hstep : c + 1 ≤ b := by omega
  have hlow := hv.low
  have hhigh := hw.high
  have hfirst : sizeAt c ≤ sizeAt (b - 1) := sizeAt_strictMono.monotone (by omega)
  have hsecond : sizeAt (c + 1) ≤ sizeAt b := sizeAt_strictMono.monotone hstep
  -- Nothing is left in between, so the two are neighbours that meet in their middle.
  have hsame : sizeAt (c + 1) = sizeAt b := by linarith
  have hb : b = c + 1 := (sizeAt_strictMono.injective hsame).symm
  subst hb
  rcases Nat.mod_two_eq_zero_or_one c with heven | hodd
  · have := (hv.odd (by omega)).1
    linarith
  · have := (hw.odd hodd).2
    linarith

theorem Owns.unique (hv : Owns b v) (hw : Owns c v) : b = c :=
  le_antisymm (hv.le hw le_rfl) (hw.le hv le_rfl)

theorem owns_sizeAt (b : Nat) : Owns b (sizeAt b) := by
  have hbelow : sizeAt (b - 1) ≤ sizeAt b := sizeAt_strictMono.monotone (Nat.sub_le b 1)
  have habove : sizeAt b < sizeAt (b + 1) := sizeAt_strictMono (Nat.lt_succ_self b)
  refine ⟨by linarith, by linarith, fun hodd => ⟨?_, by linarith⟩⟩
  have hstrict : sizeAt (b - 1) < sizeAt b := sizeAt_strictMono (by omega)
  linarith

/-- What is owned by a rank is an interval. -/
theorem Owns.between {u : ℚ} (hv : Owns b v) (hw : Owns b w) (hvu : v ≤ u) (huw : u ≤ w) :
    Owns b u := by
  have hlow := hv.low
  have hhigh := hw.high
  refine ⟨by linarith, by linarith, fun hodd => ?_⟩
  have hleft := (hv.odd hodd).1
  have hright := (hw.odd hodd).2
  exact ⟨by linarith, by linarith⟩

end ScriptHost.Double
