import Mathlib
import ScriptHost.Number.Decimal
import ScriptHost.Proofs.Number.Powers
import ScriptHost.Proofs.Number.Rank

/-!
# The search for the shortest decimal

The search compares natural numbers that are scaled up by powers of two and of ten.  Scaled back
they are the numbers that a rank owns (`Interval.contains_iff`), and then what the search does
is short to say.

* On each grid it finds a multiple that is owned (`Interval.owns_of_hit`), if there is any
  (`Interval.not_owns_of_no_hit`): the two multiples around the double itself are the only ones
  that have to be looked at, because what is owned is an interval with the double in it.
* It begins above all that is owned (`not_owns_of_coarse`), and at most twenty-three grids
  further down a grid is so fine that a multiple is owned (`owns_of_fine`).

So it ends with an owned multiple of a grid that is as coarse as possible (`shortest_spec`).
Such a decimal has as few digits as any that is owned: one with fewer digits on a finer grid
would lie below a power of ten that the first one reaches, and then that power, on a coarser
grid, would be owned as well (`Coarsest.length_le`).
-/

namespace ScriptHost

/-- The number that a decimal stands for. -/
def Decimal.value (d : Decimal) : ℚ := d.digits * 10 ^ d.exponent

/-- How many digits a decimal has. -/
def Decimal.length (d : Decimal) : Nat := d.digits.repr.length

open Double

variable {x : Double} {j : Int} {t : Nat}

private theorem ten_zpow_pos (j : Int) : (0 : ℚ) < 10 ^ j := by positivity

private theorem unit_pos (q : Int) : (0 : ℚ) < 2 ^ q := by positivity

/-! ## Around a double -/

/-- Below a double the ranks are half as far apart as above it: it is the first of its binade,
and not of the lowest. -/
def Narrow (x : Double) : Prop := x.significand = 2 ^ 52 ∧ 1 < x.exponentField

theorem sizeAt_rank (x : Double) : sizeAt x.rank = x.significand * 2 ^ x.exponent := by
  rw [sizeAt, significand_eq, exponent_eq]

theorem sizeAt_above (x : Double) :
    sizeAt (x.rank + 1) = ((x.significand : ℚ) + 1) * 2 ^ x.exponent := by
  rw [sizeAt_succ, sizeAt_rank, exponent_eq]
  ring

private theorem exponentAt_below (hx : x.rank ≠ 0) :
    (Narrow x → exponentAt (x.rank - 1) = x.exponent - 1) ∧
      (¬Narrow x → exponentAt (x.rank - 1) = x.exponent) := by
  have hpos := Nat.pos_of_ne_zero hx
  rw [Narrow, significand_eq, exponentField_eq, exponent_eq, significandAt]
  unfold exponentAt
  split <;> constructor <;> intro h <;> omega

theorem sizeAt_below_narrow (hx : x.rank ≠ 0) (h : Narrow x) :
    sizeAt (x.rank - 1) = ((x.significand : ℚ) - 1 / 2) * 2 ^ x.exponent := by
  have hstep := sizeAt_succ (x.rank - 1)
  rw [Nat.sub_add_cancel (Nat.one_le_iff_ne_zero.mpr hx), sizeAt_rank,
    (exponentAt_below hx).1 h, zpow_sub_one₀ two_ne_zero] at hstep
  linarith

theorem sizeAt_below_wide (hx : x.rank ≠ 0) (h : ¬Narrow x) :
    sizeAt (x.rank - 1) = ((x.significand : ℚ) - 1) * 2 ^ x.exponent := by
  have hstep := sizeAt_succ (x.rank - 1)
  rw [Nat.sub_add_cancel (Nat.one_le_iff_ne_zero.mpr hx), sizeAt_rank,
    (exponentAt_below hx).2 h] at hstep
  linarith

theorem significand_pos (hx : x.rank ≠ 0) : 0 < x.significand := by
  rw [significand_eq, significandAt]
  split <;> omega

private theorem exponent_bounds (x : Double) : -1074 ≤ x.exponent ∧ x.exponent ≤ 972 := by
  have := x.exponentField_lt
  unfold Double.exponent
  split <;> omega

private theorem log2_significand (x : Double) : Nat.log2 x.significand ≤ 52 := by
  rcases Nat.eq_zero_or_pos x.significand with hzero | hpos
  · rw [hzero]
    decide
  · have hlt : x.significand < 2 ^ 53 := by
      rw [significand_eq]
      exact significandAt_lt _
    have := (Nat.log2_lt hpos.ne').mpr hlt
    omega

namespace Decimal

/-! ## The interval -/

/-- The interval of a double holds what its rank owns: its ends are the middles to the
neighbours, and they belong to it if the rank is even. -/
structure Interval.Spans (i : Interval) (b : Nat) : Prop where
  low : 2 * ((i.low : ℚ) * 2 ^ i.unit) = sizeAt (b - 1) + sizeAt b
  middle : (i.middle : ℚ) * 2 ^ i.unit = sizeAt b
  high : 2 * ((i.high : ℚ) * 2 ^ i.unit) = sizeAt b + sizeAt (b + 1)
  closed : i.closed = true ↔ b % 2 = 0

theorem Interval.spans_of (hx : x.rank ≠ 0) : (Interval.of x).Spans x.rank := by
  have hpos := significand_pos hx
  have hunit : (2 : ℚ) ^ (Interval.of x).unit = 2 ^ x.exponent / 4 := by
    change (2 : ℚ) ^ (x.exponent - 2) = _
    rw [zpow_sub₀ two_ne_zero]
    norm_num
  have hmiddle : ((Interval.of x).middle : ℚ) = 4 * x.significand := by
    change ((4 * x.significand : Nat) : ℚ) = _
    push_cast
    rfl
  have hhigh : ((Interval.of x).high : ℚ) = 4 * x.significand + 2 := by
    change ((4 * x.significand + 2 : Nat) : ℚ) = _
    push_cast
    rfl
  refine ⟨?_, ?_, ?_, ?_⟩
  · rw [hunit, sizeAt_rank]
    -- At a power of two the neighbour below is closer than the one above.
    by_cases h : Narrow x
    · have hlow : (Interval.of x).low = 4 * x.significand - 1 := by
        change (if _ then _ else _) = _
        rw [if_pos]
        simpa [Narrow] using h
      rw [hlow, sizeAt_below_narrow hx h, Nat.cast_sub (by omega)]
      push_cast
      ring
    · have hlow : (Interval.of x).low = 4 * x.significand - 2 := by
        change (if _ then _ else _) = _
        rw [if_neg]
        simpa [Narrow] using h
      rw [hlow, sizeAt_below_wide hx h, Nat.cast_sub (by omega)]
      push_cast
      ring
  · rw [hunit, hmiddle, sizeAt_rank]
    ring
  · rw [hunit, hhigh, sizeAt_above, sizeAt_rank]
    ring
  · rw [← significandAt_mod_two, ← significand_eq]
    exact beq_iff_eq

/-- How many units of the comparison a unit of the interval is worth. -/
def Interval.factor (i : Interval) (j : Int) : Nat := 2 ^ i.unit.toNat * 10 ^ (-j).toNat

/-- How many units of the comparison a step of the grid is worth. -/
def Interval.grid (i : Interval) (j : Int) : Nat := 10 ^ j.toNat * 2 ^ (-i.unit).toNat

section Grid

variable {i : Interval} {b : Nat}

private theorem pow_toNat {z : ℚ} (hz : z ≠ 0) (k : Int) :
    z ^ k.toNat = z ^ (-k).toNat * z ^ k := by
  rw [← zpow_natCast, ← zpow_natCast, ← zpow_add₀ hz]
  congr 1
  omega

theorem Interval.grid_pos (i : Interval) (j : Int) : 0 < i.grid j := by
  unfold grid
  positivity

theorem Interval.factor_mul (i : Interval) (j : Int) :
    (i.factor j : ℚ) * 10 ^ j = i.grid j * 2 ^ i.unit := by
  unfold factor grid
  push_cast
  rw [pow_toNat two_ne_zero i.unit, pow_toNat (by norm_num : (10 : ℚ) ≠ 0) j]
  ring

/-- A comparison of natural numbers is one of what they are worth. -/
theorem Interval.scaled_le_iff (i : Interval) (j : Int) (a t : Nat) :
    (a * i.factor j ≤ t * i.grid j ↔ (a : ℚ) * 2 ^ i.unit ≤ t * 10 ^ j) ∧
      (t * i.grid j ≤ a * i.factor j ↔ (t : ℚ) * 10 ^ j ≤ a * 2 ^ i.unit) := by
  have hten := ten_zpow_pos j
  have hgrid : (0 : ℚ) < i.grid j := by exact_mod_cast i.grid_pos j
  have hleft : (a * i.factor j : ℚ) * 10 ^ j = i.grid j * (a * 2 ^ i.unit) := by
    rw [mul_assoc, i.factor_mul]
    ring
  have hright : (t * i.grid j : ℚ) * 10 ^ j = i.grid j * (t * 10 ^ j) := by ring
  constructor
  · rw [← Nat.cast_le (α := ℚ), ← mul_le_mul_iff_left₀ hten, Nat.cast_mul, Nat.cast_mul, hleft,
      hright, mul_le_mul_iff_right₀ hgrid]
  · rw [← Nat.cast_le (α := ℚ), ← mul_le_mul_iff_left₀ hten, Nat.cast_mul, Nat.cast_mul, hleft,
      hright, mul_le_mul_iff_right₀ hgrid]

theorem Interval.contains_iff (h : i.Spans b) (j : Int) (t : Nat) :
    i.contains (i.factor j) (t * i.grid j) = true ↔ Owns b (t * 10 ^ j) := by
  obtain ⟨hlow, hlow'⟩ := i.scaled_le_iff j i.low t
  obtain ⟨hhigh', hhigh⟩ := i.scaled_le_iff j i.high t
  unfold contains
  split
  · next hclosed =>
      -- An even significand owns both ends of its interval.
      have heven := h.closed.mp hclosed
      rw [Bool.and_eq_true, decide_eq_true_eq, decide_eq_true_eq, hlow, hhigh]
      constructor
      · rintro ⟨hl, hr⟩
        exact ⟨by linarith [h.low], by linarith [h.high], fun hodd => by omega⟩
      · intro howns
        exact ⟨by linarith [h.low, howns.low], by linarith [h.high, howns.high]⟩
  · next hopen =>
      -- An odd one owns neither.
      have hodd : b % 2 = 1 := by
        have := mt h.closed.mpr hopen
        omega
      rw [Bool.and_eq_true, decide_eq_true_eq, decide_eq_true_eq, ← not_le, ← not_le, hlow',
        hhigh', not_le, not_le]
      constructor
      · rintro ⟨hl, hr⟩
        exact ⟨by linarith [h.low], by linarith [h.high],
          fun _ => ⟨by linarith [h.low], by linarith [h.high]⟩⟩
      · intro howns
        obtain ⟨hl, hr⟩ := howns.odd hodd
        exact ⟨by linarith [h.low], by linarith [h.high]⟩

/-! ## One grid -/

/-- The multiple below the middle of the interval. -/
def Interval.below (i : Interval) (j : Int) : Nat := i.middle * i.factor j / i.grid j

/-- The two multiples that enclose the middle. -/
theorem Interval.enclosed (h : i.Spans b) (j : Int) :
    (i.below j : ℚ) * 10 ^ j ≤ sizeAt b ∧ sizeAt b ≤ (i.below j + 1 : Nat) * 10 ^ j := by
  rw [← h.middle, ← (i.scaled_le_iff j i.middle _).1, ← (i.scaled_le_iff j i.middle _).2]
  refine ⟨Nat.div_mul_le_self _ _, ?_⟩
  rw [Nat.add_mul, Nat.one_mul]
  exact (Nat.lt_div_mul_add (i.grid_pos j)).le

/-- The nearer of the two multiples is looked at first, and the other one second, if at all. -/
private theorem Interval.hit_eq (i : Interval) (choice : Choice) (j : Int) :
    ∃ first second,
      (first = i.below j ∧ second = i.below j + 1 ∨
        first = i.below j + 1 ∧ second = i.below j) ∧
      i.hit choice j =
        if i.contains (i.factor j) (first * i.grid j) then some first
        else if choice != .nearest && i.contains (i.factor j) (second * i.grid j)
        then some second
        else none := by
  obtain ⟨first, hfirst, hhit⟩ : ∃ first, (first = i.below j ∨ first = i.below j + 1) ∧
      i.hit choice j =
        if i.contains (i.factor j) (first * i.grid j) then some first
        else if choice != .nearest && i.contains (i.factor j)
          ((if first = i.below j then i.below j + 1 else i.below j) * i.grid j)
        then some (if first = i.below j then i.below j + 1 else i.below j)
        else none := by
    refine ⟨_, ?_, rfl⟩
    split
    · exact .inl rfl
    split
    · exact .inr rfl
    cases choice
    · exact .inr rfl
    all_goals
      dsimp only
      split
      · exact .inl rfl
      · exact .inr rfl
  refine ⟨first, _, ?_, hhit⟩
  rcases hfirst with rfl | rfl
  · exact .inl ⟨rfl, if_pos rfl⟩
  · exact .inr ⟨rfl, if_neg (Nat.succ_ne_self _)⟩

/-- A hit is in the interval; without a hit neither of the two multiples is, or only the nearer
one was looked at. -/
theorem Interval.hit_cases (i : Interval) (choice : Choice) (j : Int) :
    (∀ t, i.hit choice j = some t → i.contains (i.factor j) (t * i.grid j) = true) ∧
      (i.hit choice j = none → choice ≠ .nearest →
        i.contains (i.factor j) (i.below j * i.grid j) = false ∧
          i.contains (i.factor j) ((i.below j + 1) * i.grid j) = false) := by
  obtain ⟨first, second, hsides, hhit⟩ := i.hit_eq choice j
  rw [hhit]
  constructor
  · intro t ht
    split at ht
    · next hin => rwa [← Option.some.inj ht]
    split at ht
    · next hin =>
        rw [Bool.and_eq_true] at hin
        rw [← Option.some.inj ht]
        exact hin.2
    · cases ht
  · intro hnone hchoice
    split at hnone
    · cases hnone
    split at hnone
    · cases hnone
    next hfirst hsecond =>
    rw [Bool.and_eq_true, bne_iff_ne, not_and, Bool.not_eq_true] at hsecond
    rw [Bool.not_eq_true] at hfirst
    have hsecond := hsecond hchoice
    rcases hsides with ⟨rfl, rfl⟩ | ⟨rfl, rfl⟩
    · exact ⟨hfirst, hsecond⟩
    · exact ⟨hsecond, hfirst⟩

theorem Interval.owns_of_hit (h : i.Spans b) {choice : Choice} (hhit : i.hit choice j = some t) :
    Owns b (t * 10 ^ j) :=
  (i.contains_iff h j t).mp ((i.hit_cases choice j).1 t hhit)

/-- Without a hit no multiple at all is owned: what is owned is an interval around the middle,
so that with any multiple it has one of the two beside the middle. -/
theorem Interval.not_owns_of_no_hit (h : i.Spans b) {choice : Choice} (hchoice : choice ≠ .nearest)
    (hhit : i.hit choice j = none) (t : Nat) : ¬Owns b (t * 10 ^ j) := by
  intro howns
  obtain ⟨hbelow, habove⟩ := (i.hit_cases choice j).2 hhit hchoice
  obtain ⟨hleft, hright⟩ := i.enclosed h j
  have hten := ten_zpow_pos j
  rcases le_or_gt t (i.below j) with hle | hlt
  · have hcast : (t : ℚ) ≤ i.below j := by exact_mod_cast hle
    have hin := howns.between (owns_sizeAt b) (mul_le_mul_of_nonneg_right hcast hten.le) hleft
    rw [← i.contains_iff h j, hbelow] at hin
    cases hin
  · have hcast : ((i.below j + 1 : Nat) : ℚ) ≤ t := by exact_mod_cast hlt
    have hin := (owns_sizeAt b).between howns hright (mul_le_mul_of_nonneg_right hcast hten.le)
    rw [← i.contains_iff h j, habove] at hin
    cases hin

end Grid

/-! ## All grids -/

variable {i : Interval} {choice : Choice} {d : Decimal} {steps : Nat}

/-- The search ends on the first grid with a hit. -/
theorem search_eq_some (h : search i choice steps j = some d) :
    d.exponent ≤ j ∧ i.hit choice d.exponent = some d.digits ∧
      ∀ k, d.exponent < k → k ≤ j → i.hit choice k = none := by
  induction steps generalizing j with
  | zero => cases h
  | succ steps ih =>
      rw [search] at h
      split at h
      · next digits hhit =>
          cases h
          exact ⟨le_rfl, hhit, fun k hlt hle => absurd hle (not_le.mpr hlt)⟩
      · next hhit =>
          obtain ⟨hle, hfound, habove⟩ := ih h
          refine ⟨by omega, hfound, fun k hlt hle => ?_⟩
          rcases eq_or_lt_of_le hle with rfl | hlt'
          · exact hhit
          · exact habove k hlt (by omega)

/-- Without an end there was no hit on any of the grids. -/
theorem search_eq_none (h : search i choice steps j = none) (k : Nat) (hk : k < steps) :
    i.hit choice (j - k) = none := by
  induction steps generalizing j k with
  | zero => omega
  | succ steps ih =>
      rw [search] at h
      split at h
      · cases h
      · next hhit =>
          cases k with
          | zero => simpa using hhit
          | succ k =>
              have hrest := ih h k (by omega)
              rwa [Nat.cast_succ, show j - ((k : Int) + 1) = j - 1 - k by ring]

/-- Above the grid that the search begins with, nothing but zero is small enough. -/
theorem not_owns_of_coarse (hx : x.rank ≠ 0) (hj : coarse x < j) (t : Nat) :
    ¬Owns x.rank (t * 10 ^ j) := by
  intro howns
  obtain ⟨hleast, hmost⟩ := exponent_bounds x
  have hlog := log2_significand x
  obtain ⟨l, hl⟩ : ∃ l, Nat.log2 x.significand = l := ⟨_, rfl⟩
  have hsig : ((x.significand : ℚ) + 1) ≤ 2 ^ ((l : Int) + 1) := by
    have hlt : x.significand < 2 ^ (l + 1) := hl ▸ Nat.lt_log2_self
    rw [show (l : Int) + 1 = (l + 1 : Nat) from rfl, zpow_natCast]
    exact_mod_cast hlt
  have hpower : (2 : ℚ) ^ ((l : Int) + x.exponent + 2) ≤ 10 ^ j := by
    -- 30103 / 100000 is close enough to the logarithm of two for all exponents there are
    unfold coarse at hj
    rw [hl] at hlog hj
    exact two_zpow_le_ten_zpow (by omega) (by omega)
  rcases Nat.eq_zero_or_pos t with rfl | hpos
  · rw [Nat.cast_zero, zero_mul, ← sizeAt_zero] at howns
    exact hx (howns.unique (owns_sizeAt 0))
  · have hone : (1 : ℚ) ≤ t := by exact_mod_cast hpos
    have hunit := unit_pos x.exponent
    have hhigh := howns.high
    rw [sizeAt_rank, sizeAt_above] at hhigh
    have hle : (t : ℚ) * 10 ^ j < 10 ^ j := calc
      (t : ℚ) * 10 ^ j < (x.significand + 1) * 2 ^ x.exponent := by linarith
      _ ≤ 2 ^ ((l : Int) + 1) * 2 ^ x.exponent := by gcongr
      _ ≤ 2 ^ ((l : Int) + x.exponent + 2) := by
          rw [← zpow_add₀ two_ne_zero]
          exact zpow_le_zpow_right₀ one_le_two (by omega)
      _ ≤ 10 ^ j := hpower
    have hten := ten_zpow_pos j
    nlinarith

/-- The last grid of the search is fine enough for a multiple right above the double. -/
theorem owns_of_fine (hj : j = coarse x - 23) : ∃ t : Nat, Owns x.rank (t * 10 ^ j) := by
  obtain ⟨hleast, hmost⟩ := exponent_bounds x
  have hlog := log2_significand x
  have hstep : (10 : ℚ) ^ j ≤ 2 ^ (x.exponent - 2) := by
    unfold coarse at hj
    exact ten_zpow_le_two_zpow (by omega) (by omega)
  have hquarter : (2 : ℚ) ^ (x.exponent - 2) = 2 ^ x.exponent / 4 := by
    rw [zpow_sub₀ two_ne_zero]
    norm_num
  have hten := ten_zpow_pos j
  obtain ⟨t, ht⟩ : ∃ t : Nat, t = ⌈sizeAt x.rank / 10 ^ j⌉₊ := ⟨_, rfl⟩
  have hge : sizeAt x.rank ≤ t * 10 ^ j := by
    rw [← div_le_iff₀ hten, ht]
    exact Nat.le_ceil _
  have hlt : (t : ℚ) * 10 ^ j < sizeAt x.rank + 10 ^ j := by
    have hceil := Nat.ceil_lt_add_one (div_nonneg (sizeAt_nonneg x.rank) hten.le)
    rw [← ht] at hceil
    calc (t : ℚ) * 10 ^ j < (sizeAt x.rank / 10 ^ j + 1) * 10 ^ j := by gcongr
      _ = sizeAt x.rank + 10 ^ j := by rw [add_mul, div_mul_cancel₀ _ hten.ne', one_mul]
  -- the multiple is less than a quarter of a unit above the double, and half a unit is owned
  have hunit := unit_pos x.exponent
  have hnext := sizeAt_succ x.rank
  rw [← exponent_eq] at hnext
  have hprev : sizeAt (x.rank - 1) ≤ sizeAt x.rank := sizeAt_strictMono.monotone (Nat.sub_le _ 1)
  refine ⟨t, by linarith, by linarith, fun hodd => ⟨?_, by linarith⟩⟩
  have hstrict : sizeAt (x.rank - 1) < sizeAt x.rank := sizeAt_strictMono (by omega)
  linarith

/-- The decimal is owned, and its grid is as coarse as possible. -/
structure Coarsest (b : Nat) (d : Decimal) : Prop where
  owns : Owns b d.value
  coarser : ∀ (j : Int) (t : Nat), d.exponent < j → ¬Owns b (t * 10 ^ j)

/-- What the search finds. -/
theorem shortest_spec (choice : Choice) (hchoice : choice ≠ .nearest) (hx : x.rank ≠ 0) :
    Coarsest x.rank (shortest choice x) := by
  have hspans := Interval.spans_of hx
  rw [shortest]
  cases hsearch : search (Interval.of x) choice 24 (coarse x) with
  | none =>
      obtain ⟨t, ht⟩ := owns_of_fine (x := x) rfl
      have hmiss := search_eq_none hsearch 23 (by decide)
      exact absurd ht (Interval.not_owns_of_no_hit hspans hchoice hmiss t)
  | some d =>
      obtain ⟨hle, hhit, habove⟩ := search_eq_some hsearch
      refine ⟨Interval.owns_of_hit hspans hhit, fun j t hlt => ?_⟩
      rcases le_or_gt j (coarse x) with hin | hout
      · exact Interval.not_owns_of_no_hit hspans hchoice (habove j hlt hin) t
      · exact not_owns_of_coarse hx hout t

/-! ## The number of digits -/

theorem length_pos (d : Decimal) : 0 < d.length := Nat.length_repr_pos

theorem length_le_iff {k : Nat} (hk : 0 < k) : d.length ≤ k ↔ d.digits < 10 ^ k :=
  Nat.length_repr_le_iff hk

theorem pow_length_le (hd : d.digits ≠ 0) : 10 ^ (d.length - 1) ≤ d.digits := by
  rcases Nat.eq_zero_or_pos (d.length - 1) with hone | hpos
  · rw [hone, pow_zero]
    exact Nat.pos_of_ne_zero hd
  · refine not_lt.mp fun hlt => ?_
    have hle := (length_le_iff hpos).mpr hlt
    omega

/-- A decimal on a grid that is as coarse as possible has as few digits as possible. -/
theorem Coarsest.length_le {b : Nat} {other : Decimal} (h : Coarsest b d)
    (hother : Owns b other.value) : d.length ≤ other.length := by
  by_contra hlt
  obtain ⟨k, hk⟩ : ∃ k, other.length = k := ⟨_, rfl⟩
  have hpos := other.length_pos
  rw [hk] at hlt hpos
  -- The power of ten that the first one reaches and the other one does not.
  have hreach : 10 ^ k ≤ d.digits := not_lt.mp fun hsmall => hlt ((length_le_iff hpos).mpr hsmall)
  have hbelow : other.digits < 10 ^ k := (length_le_iff hpos).mp hk.le
  have hgrid : other.exponent ≤ d.exponent := by
    by_contra hcoarse
    exact h.coarser other.exponent other.digits (not_le.mp hcoarse) hother
  have hten : (0 : ℚ) < 10 ^ d.exponent := by positivity
  have hleft : other.value ≤ 10 ^ k * 10 ^ d.exponent := by
    have hcast : (other.digits : ℚ) ≤ 10 ^ k := by exact_mod_cast hbelow.le
    have hmono : (10 : ℚ) ^ other.exponent ≤ 10 ^ d.exponent :=
      zpow_le_zpow_right₀ (by norm_num) hgrid
    exact mul_le_mul hcast hmono (by positivity) (by positivity)
  have hright : (10 : ℚ) ^ k * 10 ^ d.exponent ≤ d.value := by
    have hcast : (10 : ℚ) ^ k ≤ d.digits := by exact_mod_cast hreach
    exact mul_le_mul_of_nonneg_right hcast hten.le
  have hpower := hother.between h.owns hleft hright
  refine h.coarser (d.exponent + k) 1 (by omega) ?_
  rwa [Nat.cast_one, one_mul, zpow_add₀ (by norm_num), zpow_natCast, mul_comm]

end Decimal

end ScriptHost
