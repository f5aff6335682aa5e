import Mathlib
import ScriptHost.Proofs.Number.Plain
import ScriptHost.Proofs.Number.Rounding
import ScriptHost.Value.Text

/-!
# Numbers as the host prints them

The host prints a number in one of two ways: integers below `10 ^ 21` with all their digits,
all else with the shortest decimal, both without an exponent.  Either decimal is owned by the
rank of the number (`hostDecimal_owns`), the first one because it is the number itself.  So the
text is a plain decimal that rounds to the number and is read back as it, and two numbers with
one text are equal.  The one number that is not read back bit by bit is negative zero, which is
printed as zero; the infinities and what is not a number are printed as words.
-/

namespace ScriptHost

open Double

variable {x y : Double} {n : Nat}

/-! ## Integers -/

private theorem significand_unit (x : Double) {k : Nat} (hk : x.exponent = -(k : Int)) :
    sizeAt x.rank * 2 ^ k = x.significand := by
  rw [sizeAt_rank, hk, zpow_neg, zpow_natCast, inv_mul_cancel_right₀ (by positivity)]

/-- The absolute value as an integer is the magnitude, if that is one. -/
theorem natAbs?_eq_some_iff (hx : x.isFinite = true) : x.natAbs? = some n ↔ sizeAt x.rank = n := by
  unfold natAbs?
  simp only [if_pos hx, Nat.pow_eq]
  -- Under a negative exponent the power of two has to divide the significand.
  rcases le_or_gt 0 x.exponent with hpos | hneg
  · rw [if_pos hpos, Option.some_inj, ← Nat.cast_inj (R := ℚ), sizeAt_rank]
    conv_rhs => rw [← Int.toNat_of_nonneg hpos, zpow_natCast]
    push_cast
    rfl
  · obtain ⟨k, hk⟩ : ∃ k : Nat, x.exponent = -(k : Int) := ⟨(-x.exponent).toNat, by omega⟩
    have hunit := significand_unit x hk
    have htwo : (0 : ℚ) < 2 ^ k := by positivity
    rw [if_neg (not_le.mpr hneg), hk, neg_neg, Int.toNat_natCast]
    constructor
    · intro h
      split at h
      · next hdvd =>
          have hexact := Nat.div_mul_cancel (Nat.dvd_of_mod_eq_zero hdvd)
          rw [Option.some.inj h] at hexact
          rw [← mul_left_inj' htwo.ne', hunit, ← hexact]
          push_cast
          rfl
      · cases h
    · intro h
      have hexact : x.significand = n * 2 ^ k := by
        rw [h] at hunit
        exact_mod_cast hunit.symm
      rw [hexact, if_pos (Nat.mul_mod_left _ _), Nat.mul_div_cancel _ (Nat.two_pow_pos k)]

/-! ## The decimal that is printed -/

/-- The decimal that the host prints for a finite number other than zero. -/
def hostDecimal (x : Double) : Decimal :=
  match x.natAbs? with
  | some n => if n < 10 ^ 21 then ⟨n, 0⟩ else Decimal.shortest .up x
  | none => Decimal.shortest .up x

/-- An integer is its own decimal. -/
theorem positional_natural (n : Nat) : Layout.positional false ⟨n, 0⟩ = n.repr := by
  apply String.toList_injective
  rw [PlainDecimal.positional_integral le_rfl, Nat.toList_repr]
  exact (String.toList_ofList).trans (List.append_nil _)

theorem unsigned_host (x : Double) :
    hostLayout.unsigned x = Layout.positional false (hostDecimal x) := by
  have hshortest : hostLayout.ofShortest x =
      Layout.positional false (Decimal.shortest .up x) := rfl
  have hexact : (if hostLayout.exactIntegers then x.natAbs? else none) = x.natAbs? := if_pos rfl
  rw [Layout.unsigned, hostDecimal, hexact]
  cases x.natAbs? with
  | none => exact hshortest
  | some n =>
      dsimp only
      rw [Nat.pow_eq]
      split
      · exact (positional_natural n).symm
      · exact hshortest

/-- What is printed rounds to the number. -/
theorem hostDecimal_owns (hfinite : x.isFinite = true) (hx : x.rank ≠ 0) :
    Owns x.rank (hostDecimal x).value := by
  have hshortest := (Decimal.shortest_spec .up (by decide) hx).owns
  rw [hostDecimal]
  split
  · next n hn =>
      split
      · have hexact := (natAbs?_eq_some_iff hfinite).mp hn
        rw [Decimal.value, zpow_zero, mul_one, ← hexact]
        exact owns_sizeAt x.rank
      · exact hshortest
  · exact hshortest

/-- A decimal that a rank owns is not zero, unless the rank is that of zero. -/
theorem digits_ne_zero {b : Nat} {d : Decimal} (hb : b ≠ 0) (h : Owns b d.value) :
    d.digits ≠ 0 := by
  intro hzero
  rw [Decimal.value, hzero, Nat.cast_zero, zero_mul, ← sizeAt_zero] at h
  exact hb (h.unique (owns_sizeAt 0))

/-! ## The text -/

variable {φ : Type} {i j : ValueId}

theorem display_nan (hx : x.isNaN = true) : (Value.number i x : Value φ).display = "NaN" :=
  if_pos hx

private theorem isNaN_eq_false (hx : x.rank ≤ infiniteRank) : x.isNaN = false := by
  rw [← Bool.not_eq_true, isNaN_iff]
  omega

theorem isZero_eq_false_iff : x.isZero = false ↔ x.rank ≠ 0 := by
  rw [← Bool.not_eq_true, isZero_iff]

theorem display_zero (hx : x.isZero = true) : (Value.number i x : Value φ).display = "0" := by
  have hnan : x.isNaN = false := isNaN_eq_false (by rw [isZero_iff.mp hx]; exact Nat.zero_le _)
  change hostLayout.render x = "0"
  simp only [Layout.render, hnan, hx, hostLayout]
  simp

theorem display_infinite (hx : x.isInfinite = true) :
    (Value.number i x : Value φ).display = (if x.negative then "-" else "") ++ "Infinity" := by
  have hrank := isInfinite_iff.mp hx
  have hnan : x.isNaN = false := isNaN_eq_false hrank.le
  have hzero : x.isZero = false := isZero_eq_false_iff.mpr (by rw [hrank]; decide)
  change hostLayout.render x = _
  simp only [Layout.render, hnan, hzero, hx, hostLayout]
  simp

theorem display_finite (hfinite : x.isFinite = true) (hx : x.rank ≠ 0) :
    (Value.number i x : Value φ).display =
      (if x.negative then "-" else "") ++ Layout.positional false (hostDecimal x) := by
  have hlt := isFinite_iff.mp hfinite
  have hnan : x.isNaN = false := isNaN_eq_false hlt.le
  have hinfinite : x.isInfinite = false := by
    rw [← Bool.not_eq_true, isInfinite_iff]
    exact hlt.ne
  change hostLayout.render x = _
  rw [Layout.render, hnan, isZero_eq_false_iff.mpr hx, hinfinite, unsigned_host]
  simp

/-! ## Nothing is lost -/

/-- A text of a finite number is a plain decimal that rounds to the number and is read back as
it. -/
structure Lossless (x : Double) (p : PlainDecimal) : Prop where
  nearest : Nearest p.value x
  read : ofDecimal p.negative p.decimal.digits p.decimal.exponent =
    if x.isZero then zero false else x

/-- The text does not round to any other number. -/
theorem Lossless.nearest_iff {p : PlainDecimal} (h : Lossless x p) :
    Nearest p.value y ↔ y = x ∨ y.isZero = true ∧ x.isZero = true := by
  constructor
  · exact fun hy => h.nearest.unique hy
  · rintro (rfl | ⟨hy, hx⟩)
    · exact h.nearest
    · exact h.nearest.of_zero hx hy

theorem exists_lossless_of_zero (hx : x.isZero = true) :
    ∃ p, (Value.number i x : Value φ).display = p.text ∧ Lossless x p := by
  obtain ⟨p, hsign, htext, hvalue⟩ := PlainDecimal.spells_zero
  have hrank := isZero_iff.mp hx
  have howns : Owns 0 p.decimal.value := by
    rw [hvalue, ← sizeAt_zero]
    exact owns_sizeAt 0
  refine ⟨p, ?_, ?_, ?_⟩
  · rw [display_zero hx, htext]
    rfl
  · have hnearest := Owns.nearest (x := x) (isFinite_iff.mpr (by rw [hrank]; decide))
      (hrank ▸ howns)
    rwa [PlainDecimal.value, hvalue, mul_zero, ← mul_zero x.sign, ← hvalue]
  · rw [ofDecimal_eq (by decide) howns, hsign, if_pos hx]
    rfl

theorem exists_lossless (hfinite : x.isFinite = true) :
    ∃ p, (Value.number i x : Value φ).display = p.text ∧ Lossless x p := by
  by_cases hzero : x.isZero = true
  · exact exists_lossless_of_zero hzero
  · have hx : x.rank ≠ 0 := fun h => hzero (isZero_iff.mpr h)
    have howns := hostDecimal_owns hfinite hx
    obtain ⟨p, hsign, htext, hvalue⟩ :=
      PlainDecimal.spells_positional x.negative (digits_ne_zero hx howns)
    rw [← hvalue] at howns
    refine ⟨p, ?_, ?_, ?_⟩
    · rw [display_finite hfinite hx, htext]
    · have hnearest := howns.nearest hfinite
      rwa [PlainDecimal.value, hsign]
    · rw [ofDecimal_eq (isFinite_iff.mp hfinite) howns, hsign, ofRank_rank, if_neg hzero]

theorem not_finite (hx : x.isFinite = false) : x.isNaN = true ∨ x.isInfinite = true := by
  rw [← Bool.not_eq_true, isFinite_iff] at hx
  rw [isNaN_iff, isInfinite_iff]
  omega

/-- A number and a word are told apart. -/
theorem display_ne_of_finite (hx : x.isFinite = true) (hy : y.isFinite = false) :
    (Value.number i x : Value φ).display ≠ (Value.number j y : Value φ).display := by
  obtain ⟨p, htext, -⟩ := exists_lossless (i := i) (φ := φ) hx
  rw [htext]
  rcases not_finite hy with hnan | hinfinite
  · rw [display_nan hnan, ← String.empty_append (s := "NaN")]
    exact p.text_ne_word false (c := 'N') (by decide) (by decide)
  · rw [display_infinite hinfinite]
    exact p.text_ne_word y.negative (c := 'I') (by decide) (by decide)

theorem eq_of_display_finite (hx : x.isFinite = true) (hy : y.isFinite = true)
    (h : (Value.number i x : Value φ).display = (Value.number j y : Value φ).display) :
    x = y ∨ x.isZero = true ∧ y.isZero = true := by
  obtain ⟨p, hp, hpx⟩ := exists_lossless (i := i) (φ := φ) hx
  obtain ⟨q, hq, hqy⟩ := exists_lossless (i := j) (φ := φ) hy
  obtain rfl : p = q := PlainDecimal.text_injective (by rw [← hp, h, hq])
  have hread := hpx.read.symm.trans hqy.read
  have hzero : (zero false).isZero = true := by decide
  by_cases hxz : x.isZero = true
  · by_cases hyz : y.isZero = true
    · exact .inr ⟨hxz, hyz⟩
    · rw [if_pos hxz, if_neg hyz] at hread
      exact absurd (hread ▸ hzero) hyz
  · rw [if_neg hxz] at hread
    by_cases hyz : y.isZero = true
    · rw [if_pos hyz] at hread
      exact absurd (hread ▸ hzero) hxz
    · rw [if_neg hyz] at hread
      exact .inl hread

theorem eq_of_display_not_finite (hx : x.isFinite = false) (hy : y.isFinite = false)
    (h : (Value.number i x : Value φ).display = (Value.number j y : Value φ).display) :
    x = y ∨ x.isNaN = true ∧ y.isNaN = true := by
  have hword (negative : Bool) : "NaN" ≠ (if negative then "-" else "") ++ "Infinity" := by
    cases negative <;> decide
  rcases not_finite hx with hxn | hxi <;> rcases not_finite hy with hyn | hyi
  · exact .inr ⟨hxn, hyn⟩
  · rw [display_nan hxn, display_infinite hyi] at h
    exact absurd h (hword y.negative)
  · rw [display_infinite hxi, display_nan hyn] at h
    exact absurd h.symm (hword x.negative)
  · rw [display_infinite hxi, display_infinite hyi] at h
    have hsign : x.negative = y.negative := by
      revert h
      cases x.negative <;> cases y.negative <;> decide
    exact .inl (eq_of_rank hsign ((isInfinite_iff.mp hxi).trans (isInfinite_iff.mp hyi).symm))

/-- Two numbers with one text are equal, or neither of them is a number. -/
theorem display_eq_iff :
    (Value.number i x : Value φ).display = (Value.number j y : Value φ).display ↔
      x = y ∨ x.isZero = true ∧ y.isZero = true ∨ x.isNaN = true ∧ y.isNaN = true := by
  constructor
  · intro h
    cases hx : x.isFinite <;> cases hy : y.isFinite
    · exact (eq_of_display_not_finite hx hy h).imp_right .inr
    · exact absurd h.symm (display_ne_of_finite hy hx)
    · exact absurd h (display_ne_of_finite hx hy)
    · exact (eq_of_display_finite hx hy h).imp_right .inl
  · rintro (rfl | ⟨hx, hy⟩ | ⟨hx, hy⟩)
    · rfl
    · rw [display_zero hx, display_zero hy]
    · rw [display_nan hx, display_nan hy]

/-- The printed form of a number loses nothing.  It is a plain decimal, and of all doubles that
number is the one nearest to it and the one that it is read as, the sign of zero apart.  So two
numbers have the same text exactly if they are equal, or neither of them is a number. -/
theorem display_number_lossless (φ : Type) :
    (∀ (i : ValueId) (x : Double), x.isFinite = true → ∃ p : PlainDecimal,
      (Value.number i x : Value φ).display = p.text ∧
        (∀ y, Nearest p.value y ↔ y = x ∨ y.isZero = true ∧ x.isZero = true) ∧
        ofDecimal p.negative p.decimal.digits p.decimal.exponent =
          if x.isZero then zero false else x) ∧
      ∀ (i j : ValueId) (x y : Double),
        (Value.number i x : Value φ).display = (Value.number j y : Value φ).display ↔
          x = y ∨ x.isZero = true ∧ y.isZero = true ∨ x.isNaN = true ∧ y.isNaN = true := by
  refine ⟨fun i x hx => ?_, fun i j x y => display_eq_iff⟩
  obtain ⟨p, htext, hp⟩ := exists_lossless hx
  exact ⟨p, htext, fun y => hp.nearest_iff, hp.read⟩

/-- One tenth is no double, but the double next to it is printed as a decimal that no other one
is nearest to. -/
theorem display_number_lossless_tenth :
    (⟨0x3FB999999999999A⟩ : Double).isFinite = true ∧ ∃ p : PlainDecimal,
      (Value.number 0 ⟨0x3FB999999999999A⟩ : Value Unit).display = p.text ∧
        Nearest p.value ⟨0x3FB999999999999A⟩ ∧
        ofDecimal p.negative p.decimal.digits p.decimal.exponent = ⟨0x3FB999999999999A⟩ := by
  have hfinite : (⟨0x3FB999999999999A⟩ : Double).isFinite = true := by decide
  obtain ⟨p, htext, hnearest, hread⟩ := (display_number_lossless Unit).1 0 _ hfinite
  exact ⟨hfinite, p, htext, (hnearest _).mpr (.inl rfl), hread⟩

end ScriptHost
