import Mathlib
import ScriptHost.Proofs.Number.Printed

/-!
# Numbers as a script prints them

A script writes a number with the digits of a decimal that rounds to it and has as few digits as
possible, and where the point stands decides how: up to twenty-one places in front of it and
five zeros behind it are written out, and beyond that there is an exponent.  `ScriptText` says
so, clause by clause as the language does; it is a relation, because the language leaves the last
digit open if there are several decimals of that length.

The host agrees with it on every number from `10 ^ -6` up to `10 ^ 21` that is no integer, and on
an integer exactly if the integer is one of its own shortest decimals
(`scriptText_display_iff`), as all integers below `2 ^ 53` are.  An integer beyond may have
shorter decimals, and then the host writes digits where the script has zeros; and the host never
writes an exponent, although the bound at which it stops to write integers exactly is the one at
which the script begins to.
-/

namespace ScriptHost

open Double

/-! ## The text of a number in a script -/

/-- How many places the point stands behind the first digit. -/
def Decimal.point (d : Decimal) : Int := d.length + d.exponent

/-- The digits of a decimal as a script writes them. -/
def scriptDigits (d : Decimal) : String :=
  let digits := d.digits.repr.toList
  let n := d.point
  if -5 ≤ n ∧ n ≤ 21 then
    if d.length ≤ n then String.ofList (digits ++ List.replicate (n - d.length).toNat '0')
    else if 0 < n then String.ofList (digits.take n.toNat ++ '.' :: digits.drop n.toNat)
    else String.ofList ('0' :: '.' :: (List.replicate (-n).toNat '0' ++ digits))
  else
    String.ofList (digits.take 1 ++ (if d.length = 1 then [] else '.' :: digits.drop 1) ++
      'e' :: (if n < 0 then '-' else '+') :: (n - 1).natAbs.repr.toList)

/-- A decimal that rounds to a number and has as few digits as possible. -/
structure Fewest (x : Double) (d : Decimal) : Prop where
  nearest : Nearest (x.sign * d.value) x
  fewest : ∀ e : Decimal, Nearest (x.sign * e.value) x → d.length ≤ e.length

/-- A text is one that a script writes for a number. -/
inductive ScriptText (x : Double) : String → Prop where
  | nan (h : x.isNaN = true) : ScriptText x "NaN"
  | zero (h : x.isZero = true) : ScriptText x "0"
  | infinite (h : x.isInfinite = true) :
    ScriptText x ((if x.negative then "-" else "") ++ "Infinity")
  | digits {d : Decimal} (h : x.isFinite = true) (hzero : x.isZero = false) (hd : Fewest x d) :
    ScriptText x ((if x.negative then "-" else "") ++ scriptDigits d)

/-- The number next to a millionth. -/
def micro : Double := ofDecimal false 1 (-6)

variable {x : Double} {d e : Decimal} {b r : Nat} {p : Int} {φ : Type} {i : ValueId}

/-! ## The fewest digits -/

theorem Decimal.value_nonneg (d : Decimal) : 0 ≤ d.value := by
  unfold Decimal.value
  positivity

theorem fewest_iff (hfinite : x.isFinite = true) : Fewest x d ↔
    Owns x.rank d.value ∧ ∀ e : Decimal, Owns x.rank e.value → d.length ≤ e.length := by
  constructor
  · rintro ⟨hnearest, hfewest⟩
    exact ⟨(nearest_iff_owns hfinite d.value_nonneg).mp hnearest,
      fun e he => hfewest e ((nearest_iff_owns hfinite e.value_nonneg).mpr he)⟩
  · rintro ⟨howns, hfewest⟩
    exact ⟨(nearest_iff_owns hfinite d.value_nonneg).mpr howns,
      fun e he => hfewest e ((nearest_iff_owns hfinite e.value_nonneg).mp he)⟩

theorem fewest_shortest (hfinite : x.isFinite = true) (hx : x.rank ≠ 0) :
    Fewest x (Decimal.shortest .up x) := by
  have hspec := Decimal.shortest_spec .up (by decide) hx
  exact (fewest_iff hfinite).mpr ⟨hspec.owns, fun e he => hspec.length_le he⟩

/-! ## Where the point stands -/

/-- A decimal reaches a power of ten exactly if its point stands behind it. -/
theorem Decimal.pow_le_value_iff (hd : d.digits ≠ 0) : (10 : ℚ) ^ p ≤ d.value ↔ p < d.point := by
  have hten : (0 : ℚ) < 10 ^ d.exponent := by positivity
  have hbelow : d.digits < 10 ^ d.length := (Decimal.length_le_iff d.length_pos).mp le_rfl
  have hlow : (10 : ℚ) ^ (d.point - 1) ≤ d.value := by
    have hcast : (10 : ℚ) ^ (d.length - 1) ≤ d.digits := by exact_mod_cast Decimal.pow_length_le hd
    have hlength := d.length_pos
    have hpoint : d.point - 1 = (d.length - 1 : Nat) + d.exponent := by
      unfold Decimal.point
      omega
    rw [hpoint, zpow_add₀ (by norm_num), zpow_natCast]
    exact mul_le_mul_of_nonneg_right hcast hten.le
  have hhigh : d.value < (10 : ℚ) ^ d.point := by
    have hcast : (d.digits : ℚ) < 10 ^ d.length := by exact_mod_cast hbelow
    rw [Decimal.point, zpow_add₀ (by norm_num), zpow_natCast]
    exact mul_lt_mul_of_pos_right hcast hten
  constructor
  · intro h
    exact (zpow_lt_zpow_iff_right₀ (by norm_num : (1 : ℚ) < 10)).mp (h.trans_lt hhigh)
  · intro h
    exact (zpow_le_zpow_right₀ (by norm_num) (by omega)).trans hlow

/-- A shortest decimal reaches a power of ten exactly if the number is not below the one next to
that power.  If the number is that one, the power itself is a decimal of one digit, and no other
one of one digit is that close. -/
theorem Fewest.reaches_iff (hfinite : x.isFinite = true) (hx : x.rank ≠ 0) (hd : Fewest x d)
    (hr : Owns r (10 ^ p)) (hclose : 2 * (9 / 10 * 10 ^ p) < sizeAt (r - 1) + sizeAt r) :
    p < d.point ↔ r ≤ x.rank := by
  obtain ⟨howns, hfewest⟩ := (fewest_iff hfinite).mp hd
  have hdigits := digits_ne_zero hx howns
  rw [← Decimal.pow_le_value_iff hdigits]
  constructor
  · exact fun hle => hr.le howns hle
  · intro hle
    by_contra hlt
    -- the decimal is on the other side of the power, so the two round to one number
    have hrank : r = x.rank := le_antisymm hle (howns.le hr (not_le.mp hlt).le)
    have hone : d.length ≤ 1 := by
      have hdigit : Decimal.length ⟨1, p⟩ ≤ 1 :=
        (Decimal.length_le_iff one_pos).mpr (show 1 < 10 ^ 1 by decide)
      refine (hfewest ⟨1, p⟩ ?_).trans hdigit
      rwa [Decimal.value, Nat.cast_one, one_mul, ← hrank]
    have hnine : d.digits ≤ 9 := Nat.le_of_lt_succ ((Decimal.length_le_iff one_pos).mp hone)
    have hexponent : d.exponent ≤ p - 1 := by
      have hlength := d.length_pos
      rw [Decimal.pow_le_value_iff hdigits, Decimal.point] at hlt
      omega
    have hvalue : d.value ≤ 9 / 10 * 10 ^ p := by
      have hcast : (d.digits : ℚ) ≤ 9 := by exact_mod_cast hnine
      have hpower : (10 : ℚ) ^ d.exponent ≤ 10 ^ p / 10 := by
        rw [div_eq_mul_inv, ← zpow_sub_one₀ (by norm_num)]
        exact zpow_le_zpow_right₀ (by norm_num) hexponent
      calc d.value ≤ 9 * (10 ^ p / 10) := mul_le_mul hcast hpower (by positivity) (by norm_num)
        _ = 9 / 10 * 10 ^ p := by ring
    have hlow := howns.low
    rw [← hrank] at hlow
    linarith

/-! ## The two bounds -/

private theorem sizeAt_eq {m : Nat} {q : Int} (hm : significandAt b = m) (hq : exponentAt b = q) :
    sizeAt b = m * 2 ^ q := by
  rw [sizeAt, hm, hq]

/-- The rank of `10 ^ 21`, which is a double. -/
def sextillionRank : Nat := 0x444B1AE4D6E2EF50

theorem sizeAt_sextillion : sizeAt sextillionRank = 10 ^ (21 : Int) := by
  have hsize : sizeAt sextillionRank = (0x1B1AE4D6E2EF50 : Nat) * 2 ^ (17 : Int) :=
    sizeAt_eq (by decide) (by decide)
  rw [hsize]
  norm_num

theorem Fewest.below_sextillion (hfinite : x.isFinite = true) (hx : x.rank ≠ 0)
    (hd : Fewest x d) : d.point ≤ 21 ↔ |x.value| < 10 ^ (21 : Int) := by
  have hsize : sizeAt (sextillionRank - 1) = (0x1B1AE4D6E2EF4F : Nat) * 2 ^ (17 : Int) :=
    sizeAt_eq (by decide) (by decide)
  have howns : Owns sextillionRank (10 ^ (21 : Int)) := sizeAt_sextillion ▸ owns_sizeAt _
  have hreaches := hd.reaches_iff hfinite hx howns (by
    rw [hsize, sizeAt_sextillion]
    norm_num)
  rw [abs_value, ← sizeAt_sextillion, sizeAt_strictMono.lt_iff_lt, ← not_le, ← hreaches, not_lt]

theorem micro_eq : micro = ⟨0x3EB0C6F7A0B5ED8D⟩ := by decide

private theorem rank_micro : micro.rank = 0x3EB0C6F7A0B5ED8D := by
  rw [micro_eq]
  decide

private theorem sign_micro : micro.sign = 1 := by
  rw [micro_eq]
  decide

/-- A millionth lies between the middles to the neighbours of the number next to it, which are
closer than nine tenths of a millionth. -/
private theorem micro_bounds :
    2 * (9 / 10 * 10 ^ (-6 : Int)) < sizeAt (micro.rank - 1) + sizeAt micro.rank ∧
      sizeAt (micro.rank - 1) + sizeAt micro.rank < 2 * 10 ^ (-6 : Int) ∧
      2 * 10 ^ (-6 : Int) < sizeAt micro.rank + sizeAt (micro.rank + 1) := by
  have hbelow : sizeAt (0x3EB0C6F7A0B5ED8D - 1) = (0x10C6F7A0B5ED8C : Nat) * 2 ^ (-72 : Int) :=
    sizeAt_eq (by decide) (by decide)
  have hself : sizeAt 0x3EB0C6F7A0B5ED8D = (0x10C6F7A0B5ED8D : Nat) * 2 ^ (-72 : Int) :=
    sizeAt_eq (by decide) (by decide)
  have habove : sizeAt (0x3EB0C6F7A0B5ED8D + 1) = (0x10C6F7A0B5ED8E : Nat) * 2 ^ (-72 : Int) :=
    sizeAt_eq (by decide) (by decide)
  rw [rank_micro, hbelow, hself, habove]
  norm_num

theorem owns_micro : Owns micro.rank (10 ^ (-6 : Int)) := by
  obtain ⟨-, hlow, hhigh⟩ := micro_bounds
  exact ⟨hlow.le, hhigh.le, fun _ => ⟨hlow, hhigh⟩⟩

theorem Fewest.from_micro (hfinite : x.isFinite = true) (hx : x.rank ≠ 0)
    (hd : Fewest x d) : -5 ≤ d.point ↔ micro.value ≤ |x.value| := by
  have hreaches := hd.reaches_iff hfinite hx owns_micro micro_bounds.1
  rw [abs_value, value_eq, sign_micro, one_mul, sizeAt_strictMono.le_iff_le, ← hreaches,
    Int.lt_iff_add_one_le]
  rfl

/-! ## Written without an exponent -/

/-- Where a script writes no exponent it writes what the positional layout does. -/
theorem scriptDigits_eq (hlow : -5 ≤ d.point) (hhigh : d.point ≤ 21) :
    scriptDigits d = Layout.positional false d := by
  have hpoint : d.point = d.length + d.exponent := rfl
  unfold scriptDigits
  dsimp only
  rw [if_pos ⟨hlow, hhigh⟩, Nat.toList_repr]
  split
  · next hle =>
      have hzeros : (d.point - d.length).toNat = d.exponent.toNat := by omega
      rw [PlainDecimal.positional_integral (by omega), hzeros]
  next hlt =>
  obtain ⟨k, hk⟩ : ∃ k : Nat, d.exponent = -(k : Int) := ⟨(-d.exponent).toNat, by omega⟩
  split
  · next hpos =>
      have hplaces : d.point.toNat = d.length - k := by omega
      rw [PlainDecimal.positional_split hk (by omega) (by omega), hplaces]
  · next hneg =>
      have hzeros : (-d.point).toNat = k - d.length := by omega
      rw [PlainDecimal.positional_small hk (by omega) (by omega), hzeros]

theorem mem_scriptDigits (h : ¬(-5 ≤ d.point ∧ d.point ≤ 21)) : 'e' ∈ (scriptDigits d).toList := by
  unfold scriptDigits
  dsimp only
  rw [if_neg h, String.toList_ofList]
  exact List.mem_append_right _ List.mem_cons_self

/-- A script writes for one decimal what the positional layout writes for another one only if
the two are the same number, and no exponent is needed. -/
theorem value_of_scriptDigits (hd : d.digits ≠ 0) (he : e.digits ≠ 0)
    (h : scriptDigits d = Layout.positional false e) :
    (-5 ≤ d.point ∧ d.point ≤ 21) ∧ d.value = e.value := by
  obtain ⟨q, -, hqtext, hqvalue⟩ := PlainDecimal.spells_positional false he
  by_cases hrange : -5 ≤ d.point ∧ d.point ≤ 21
  · obtain ⟨p, -, hptext, hpvalue⟩ := PlainDecimal.spells_positional false hd
    rw [scriptDigits_eq hrange.1 hrange.2] at h
    have hsame : p = q := PlainDecimal.text_injective (by rw [hptext, hqtext, h])
    exact ⟨hrange, by rw [← hpvalue, hsame, hqvalue]⟩
  · have hmem := mem_scriptDigits hrange
    have hnot := q.not_mem_text (c := 'e') (by decide) (by decide) (by decide)
    rw [hqtext, ← h] at hnot
    exact absurd (by simpa using hmem) hnot

/-! ## The host beside a script -/

/-- The text is that of a script if the digits are. -/
theorem scriptText_iff_digits (hfinite : x.isFinite = true) (hx : x.rank ≠ 0) :
    ScriptText x (Value.number i x : Value φ).display ↔
      ∃ d, Fewest x d ∧ scriptDigits d = Layout.positional false (hostDecimal x) := by
  have hzero : x.isZero = false := isZero_eq_false_iff.mpr hx
  have hrank := isFinite_iff.mp hfinite
  obtain ⟨t, ht⟩ : ∃ t, (Value.number i x : Value φ).display = t := ⟨_, rfl⟩
  have htext := ht.symm.trans (display_finite hfinite hx)
  rw [ht]
  constructor
  · intro h
    cases h with
    | nan h => exact absurd (isNaN_iff.mp h) (by omega)
    | zero h => exact absurd (isZero_iff.mp h) hx
    | infinite h => exact absurd (isInfinite_iff.mp h) (by omega)
    | digits _ _ hd => exact ⟨_, hd, by simpa using htext⟩
  · rintro ⟨d, hd, hdigits⟩
    rw [htext, ← hdigits]
    exact .digits hfinite hzero hd

/-- The host prints an integer below `10 ^ 21` as it is. -/
theorem hostDecimal_of_integer {n : Nat} (hfinite : x.isFinite = true) (hn : |x.value| = n)
    (hlt : |x.value| < 10 ^ (21 : Int)) : hostDecimal x = ⟨n, 0⟩ := by
  rw [hn] at hlt
  rw [abs_value] at hn
  have hsmall : n < 10 ^ 21 := by exact_mod_cast hlt
  rw [hostDecimal, (natAbs?_eq_some_iff hfinite).mpr hn]
  exact if_pos hsmall

/-- A shortest decimal of an integer that is the integer itself is its first digits, with zeros
behind them: places behind the point would be digits too many. -/
theorem positional_of_integer {n : Nat} (hfinite : x.isFinite = true) (hx : x.rank ≠ 0)
    (hd : Fewest x d) (hvalue : d.value = n) :
    Layout.positional false d = Layout.positional false ⟨n, 0⟩ := by
  obtain ⟨howns, hfewest⟩ := (fewest_iff hfinite).mp hd
  have hdigits := digits_ne_zero hx howns
  rcases le_or_gt 0 d.exponent with hpos | hneg
  · have hexact : n = d.digits * 10 ^ d.exponent.toNat := by
      rw [Decimal.value, ← Int.toNat_of_nonneg hpos, zpow_natCast] at hvalue
      exact_mod_cast hvalue.symm
    rw [positional_natural, PlainDecimal.positional_integral hpos, hexact,
      ← toDigits_mul_pow hdigits, ← Nat.toList_repr, String.ofList_toList]
  · -- Digits behind the point would be zeros, and the integer has fewer digits without them.
    obtain ⟨k, hk⟩ : ∃ k : Nat, d.exponent = -((k + 1 : Nat) : Int) :=
      ⟨(-d.exponent - 1).toNat, by omega⟩
    have hexact : d.digits = n * 10 ^ (k + 1) := by
      rw [Decimal.value, hk, zpow_neg, zpow_natCast, ← div_eq_mul_inv,
        div_eq_iff (by positivity)] at hvalue
      exact_mod_cast hvalue
    have hle : d.length ≤ Decimal.length ⟨n, 0⟩ := by
      refine hfewest ⟨n, 0⟩ ?_
      rwa [Decimal.value, zpow_zero, mul_one, ← hvalue]
    have hne : n ≠ 0 := left_ne_zero_of_mul (hexact ▸ hdigits)
    have hmore := (Decimal.length_le_iff (Decimal.length_pos _)).mp hle
    rw [hexact] at hmore
    have hlength := Decimal.length_pos ⟨n, 0⟩
    have hfull := Decimal.pow_length_le (d := ⟨n, 0⟩) hne
    have hcontra : 10 ^ Decimal.length ⟨n, 0⟩ ≤ n * 10 ^ (k + 1) := calc
      10 ^ Decimal.length ⟨n, 0⟩ = 10 ^ (Decimal.length ⟨n, 0⟩ - 1) * 10 ^ 1 := by
        rw [← pow_add, Nat.sub_add_cancel hlength]
      _ ≤ n * 10 ^ (k + 1) := Nat.mul_le_mul hfull (Nat.pow_le_pow_right (by decide) (by omega))
    exact absurd hmore (not_lt.mpr hcontra)

/-- Where the host and a script write the same digits. -/
theorem digits_agree_iff (hfinite : x.isFinite = true) (hx : x.rank ≠ 0) :
    (∃ d, Fewest x d ∧ scriptDigits d = Layout.positional false (hostDecimal x)) ↔
      micro.value ≤ |x.value| ∧ |x.value| < 10 ^ (21 : Int) ∧
        ∀ n : Nat, |x.value| = n → ∃ d, Fewest x d ∧ d.value = n := by
  have hhost := digits_ne_zero hx (hostDecimal_owns hfinite hx)
  constructor
  · rintro ⟨d, hd, htext⟩
    have hdigits := digits_ne_zero hx ((fewest_iff hfinite).mp hd).1
    obtain ⟨⟨hlow, hhigh⟩, hvalue⟩ := value_of_scriptDigits hdigits hhost htext
    have hbelow := (hd.below_sextillion hfinite hx).mp hhigh
    refine ⟨(hd.from_micro hfinite hx).mp hlow, hbelow, fun n hn => ⟨d, hd, ?_⟩⟩
    rw [hvalue, hostDecimal_of_integer hfinite hn hbelow, Decimal.value, zpow_zero, mul_one]
  · rintro ⟨hlow, hbelow, hinteger⟩
    have hwritten {d : Decimal} (hd : Fewest x d) : scriptDigits d = Layout.positional false d :=
      scriptDigits_eq ((hd.from_micro hfinite hx).mpr hlow)
        ((hd.below_sextillion hfinite hx).mpr hbelow)
    by_cases hcase : ∃ n : Nat, |x.value| = n
    · -- the host takes the integer itself, and a script a decimal with its digits
      obtain ⟨n, hn⟩ := hcase
      obtain ⟨d, hd, hvalue⟩ := hinteger n hn
      refine ⟨d, hd, ?_⟩
      rw [hwritten hd, hostDecimal_of_integer hfinite hn hbelow]
      exact positional_of_integer hfinite hx hd hvalue
    · -- both take a shortest decimal, and the one that the host takes will do
      have hnone : x.natAbs? = none := by
        cases hnat : x.natAbs? with
        | none => rfl
        | some n =>
            rw [natAbs?_eq_some_iff hfinite, ← abs_value] at hnat
            exact absurd ⟨n, hnat⟩ hcase
      refine ⟨_, fewest_shortest hfinite hx, ?_⟩
      rw [hwritten (fewest_shortest hfinite hx), hostDecimal, hnone]

/-! ## Small integers -/

/-- Below `2 ^ 53` the magnitudes are at most one apart. -/
private theorem exponentAt_nonpos {c : Nat} (hb : sizeAt b < 2 ^ (53 : Int)) (hc : c ≤ b) :
    exponentAt c ≤ 0 := by
  have hsize := sizeAt_scaled (m := 2 ^ 52) (q := 1) (by omega) (by omega) (.inl le_rfl)
  have hrank : ((1 : Int) + 1074).toNat * 2 ^ 52 + 2 ^ 52 = 1076 * 2 ^ 52 := by decide
  have hpower : ((2 ^ 52 : Nat) : ℚ) * 2 ^ (1 : Int) = 2 ^ (53 : Int) := by norm_num
  rw [hrank, hpower] at hsize
  rw [← hsize, sizeAt_strictMono.lt_iff_lt] at hb
  unfold exponentAt
  omega

/-- An integer below `2 ^ 53` is its own shortest decimal: no other integer rounds to it, and a
decimal with places behind the point is never on as coarse a grid. -/
theorem exists_fewest_of_small {n : Nat} (hfinite : x.isFinite = true) (hx : x.rank ≠ 0)
    (hn : |x.value| = n) (hsmall : n < 2 ^ 53) : ∃ d, Fewest x d ∧ d.value = n := by
  refine ⟨Decimal.shortest .up x, fewest_shortest hfinite hx, ?_⟩
  obtain ⟨howns, hcoarser⟩ := Decimal.shortest_spec .up (by decide) hx
  obtain ⟨d, hd⟩ : ∃ d, Decimal.shortest .up x = d := ⟨_, rfl⟩
  rw [hd] at howns hcoarser ⊢
  rw [abs_value] at hn
  -- A decimal with places behind the point is not the coarsest one, since the integer is owned too.
  have hexponent : 0 ≤ d.exponent := by
    by_contra hneg
    refine hcoarser 0 n (not_le.mp hneg) ?_
    rw [zpow_zero, mul_one, ← hn]
    exact owns_sizeAt x.rank
  obtain ⟨m, hm⟩ : ∃ m : Nat, d.value = m := by
    refine ⟨d.digits * 10 ^ d.exponent.toNat, ?_⟩
    rw [Decimal.value, ← Int.toNat_of_nonneg hexponent, zpow_natCast]
    push_cast
    rfl
  have hbound : sizeAt x.rank < 2 ^ (53 : Int) := by
    rw [hn]
    exact_mod_cast hsmall
  have hunit {c : Nat} (hc : c ≤ x.rank) : (2 : ℚ) ^ exponentAt c ≤ 1 :=
    zpow_le_one_of_nonpos₀ one_le_two (exponentAt_nonpos hbound hc)
  -- Neighbouring doubles are at most one apart here, so no other integer is owned.
  have habove := sizeAt_succ x.rank
  have hbelow := sizeAt_succ (x.rank - 1)
  rw [Nat.sub_add_cancel (Nat.one_le_iff_ne_zero.mpr hx)] at hbelow
  have hupper := hunit le_rfl
  have hlower := hunit (Nat.sub_le x.rank 1)
  have hlow := howns.low
  have hhigh := howns.high
  rw [hm] at hlow hhigh ⊢
  have hle : (2 * m : ℚ) ≤ 2 * n + 1 := by linarith
  have hge : (2 * n : ℚ) ≤ 2 * m + 1 := by linarith
  have hle' : 2 * m ≤ 2 * n + 1 := by exact_mod_cast hle
  have hge' : 2 * n ≤ 2 * m + 1 := by exact_mod_cast hge
  have hsame : m = n := by omega
  rw [hsame]

/-! ## Every number -/

theorem scriptText_display_of_not_finite (hfinite : x.isFinite = false) :
    ScriptText x (Value.number i x : Value φ).display := by
  rcases not_finite hfinite with hnan | hinfinite
  · rw [display_nan hnan]
    exact .nan hnan
  · rw [display_infinite hinfinite]
    exact .infinite hinfinite

theorem scriptText_display_of_zero (hzero : x.isZero = true) :
    ScriptText x (Value.number i x : Value φ).display := by
  rw [display_zero hzero]
  exact .zero hzero

theorem scriptText_display_of_small {n : Nat} (hsmall : n < 2 ^ 53) (hn : |x.value| = n) :
    ScriptText x (Value.number i x : Value φ).display := by
  have hbound : (n : ℚ) < 2 ^ 53 := by exact_mod_cast hsmall
  have hsize := hn
  rw [abs_value] at hsize
  cases hzero : x.isZero with
  | true => exact scriptText_display_of_zero hzero
  | false =>
      have hx : x.rank ≠ 0 := isZero_eq_false_iff.mp hzero
      have hfinite : x.isFinite = true := by
        rw [isFinite_iff, ← sizeAt_strictMono.lt_iff_lt, hsize, sizeAt_infinite]
        calc (n : ℚ) < 2 ^ (53 : Int) := by exact_mod_cast hsmall
          _ ≤ 2 ^ (1024 : Int) := zpow_le_zpow_right₀ one_le_two (by decide)
      have hone : (1 : ℚ) ≤ n := by
        have hpos := sizeAt_pos hx
        rw [hsize] at hpos
        exact_mod_cast hpos
      have hmicro : micro.value ≤ 1 := by
        have hbelow := sizeAt_nonneg (micro.rank - 1)
        have hmiddle := micro_bounds.2.1
        have hmillionth : (2 : ℚ) * 10 ^ (-6 : Int) ≤ 1 := by norm_num
        rw [value_eq, sign_micro, one_mul]
        linarith
      rw [scriptText_iff_digits hfinite hx, digits_agree_iff hfinite hx]
      refine ⟨by linarith, ?_, fun m hm => ?_⟩
      · have hlarge : (2 : ℚ) ^ 53 < 10 ^ (21 : Int) := by norm_num
        linarith
      · have hsame : m = n := by exact_mod_cast hm.symm.trans hn
        rw [hsame]
        exact exists_fewest_of_small hfinite hx hn hsmall

/-- The host prints a number as a script does, exactly if it is no finite number other than zero,
or is between a millionth and `10 ^ 21` and, if it is an integer, one of its own shortest
decimals.  It does so for all integers below `2 ^ 53`. -/
theorem scriptText_display_iff (φ : Type) (i : ValueId) (x : Double) :
    (ScriptText x (Value.number i x : Value φ).display ↔
      (x.isFinite = true → x.isZero = false →
        micro.value ≤ |x.value| ∧ |x.value| < 10 ^ (21 : Int) ∧
          ∀ n : Nat, |x.value| = n → ∃ d, Fewest x d ∧ d.value = n)) ∧
      ∀ n : Nat, n < 2 ^ 53 → |x.value| = n →
        ScriptText x (Value.number i x : Value φ).display := by
  refine ⟨?_, fun n hsmall hn => scriptText_display_of_small hsmall hn⟩
  cases hfinite : x.isFinite with
  | false => exact iff_of_true (scriptText_display_of_not_finite hfinite) nofun
  | true =>
      cases hzero : x.isZero with
      | true => exact iff_of_true (scriptText_display_of_zero hzero) nofun
      | false =>
          have hx : x.rank ≠ 0 := isZero_eq_false_iff.mp hzero
          rw [scriptText_iff_digits hfinite hx, digits_agree_iff hfinite hx]
          exact ⟨fun h _ _ => h, fun h => h rfl rfl⟩

theorem scriptText_display_three :
    3 < 2 ^ 53 ∧ |(⟨0x4008000000000000⟩ : Double).value| = (3 : Nat) ∧
      ScriptText ⟨0x4008000000000000⟩
        (Value.number 0 ⟨0x4008000000000000⟩ : Value Unit).display := by
  have hvalue : |(⟨0x4008000000000000⟩ : Double).value| = (3 : Nat) := by
    rw [abs_value, sizeAt_eq (m := 0x18000000000000) (q := -51) (by decide) (by decide)]
    norm_num
  exact ⟨by decide, hvalue, (scriptText_display_iff Unit 0 _).2 3 (by decide) hvalue⟩

/-- At the bound itself a script writes an exponent, and the host does not. -/
theorem display_sextillion_not_scriptText :
    (Value.number 0 ⟨0x444B1AE4D6E2EF50⟩ : Value Unit).display = "1000000000000000000000" ∧
      ScriptText ⟨0x444B1AE4D6E2EF50⟩ "1e+21" ∧
      ¬ScriptText ⟨0x444B1AE4D6E2EF50⟩
        (Value.number 0 ⟨0x444B1AE4D6E2EF50⟩ : Value Unit).display := by
  obtain ⟨x, hx⟩ : ∃ x : Double, x = ⟨0x444B1AE4D6E2EF50⟩ := ⟨_, rfl⟩
  have hfinite : x.isFinite = true := by rw [hx]; decide
  have hzero : x.isZero = false := by rw [hx]; decide
  have hsign : x.negative = false := by rw [hx]; decide
  have hrank : x.rank = sextillionRank := by rw [hx]; decide
  have hne : x.rank ≠ 0 := by rw [hrank]; decide
  rw [← hx]
  refine ⟨by rw [hx]; rfl, ?_, ?_⟩
  · have hdigits : (if x.negative then "-" else "") ++ scriptDigits ⟨1, 21⟩ = "1e+21" := by
      rw [hsign]
      decide
    rw [← hdigits]
    refine .digits hfinite hzero ((fewest_iff hfinite).mpr ⟨?_, fun e _ => e.length_pos⟩)
    rw [Decimal.value, Nat.cast_one, one_mul, hrank, ← sizeAt_sextillion]
    exact owns_sizeAt _
  · rw [scriptText_iff_digits hfinite hne, digits_agree_iff hfinite hne, abs_value, hrank,
      sizeAt_sextillion]
    exact fun h => lt_irrefl _ h.2.1

end ScriptHost
