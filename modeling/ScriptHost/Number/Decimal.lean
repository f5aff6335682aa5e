import ScriptHost.Number.Double

/-!
# The shortest decimal of a number

Every number `x` owns the interval of reals that round to it.  Of the decimals
`digits · 10 ^ exponent` inside that interval `shortest` takes one with the
fewest digits, and of those the one nearest to `x`.

The search walks down the powers of ten from one that is too coarse.  On each
grid it looks at the two multiples that enclose `x`: if any multiple lies in the
interval, so does one of these two, hence the first grid with a hit has the
fewest digits.  What is left open is which of two multiples is taken when `x`
lies exactly in the middle, and that is a parameter.

Below a power of two the interval is narrower than above it, so that the nearest
multiple may lie outside while the other one is inside.  A writer that rounds to
some number of digits and then checks what it got never sees that other one; the
rule `nearest` is for such a writer, and may give one digit more.
-/

namespace ScriptHost

/-- The decimal `digits · 10 ^ exponent`. -/
structure Decimal where
  digits : Nat
  exponent : Int
  deriving DecidableEq, Repr, Inhabited

/-- Which multiple of a power of ten stands for a number. -/
inductive Choice where
  /-- One in the interval; of two equally near ones the larger. -/
  | up
  /-- One in the interval; of two equally near ones the even one. -/
  | even
  /-- The nearest one, if it lies in the interval; of two equally near ones the
  even one. -/
  | nearest
  deriving DecidableEq, Repr

namespace Decimal

/-- The interval of reals that round to `m · 2 ^ q`, in units of `2 ^ (q - 2)`;
its ends belong to it when `m` is even. -/
structure Interval where
  low : Nat
  middle : Nat
  high : Nat
  closed : Bool
  /-- The exponent of the unit. -/
  unit : Int

/-- The interval of a finite nonzero number.  Below a power of two the
neighbours are half as far away, except under the smallest normal number. -/
def Interval.of (x : Double) : Interval :=
  let m := x.significand
  let narrow := m == Nat.pow 2 52 && 1 < x.exponentField
  { low := if narrow then 4 * m - 1 else 4 * m - 2
    middle := 4 * m
    high := 4 * m + 2
    closed := m % 2 == 0
    unit := x.exponent - 2 }

/-- Whether `n` units lie in the interval, where a unit of the interval is worth
`factor` of them. -/
def Interval.contains (i : Interval) (factor n : Nat) : Bool :=
  if i.closed then i.low * factor ≤ n && n ≤ i.high * factor
  else i.low * factor < n && n < i.high * factor

/-- The multiple of `10 ^ j` that stands for the middle of the interval, if one
of the two that enclose it does. -/
def Interval.hit (i : Interval) (choice : Choice) (j : Int) : Option Nat :=
  let factor := Nat.pow 2 i.unit.toNat * Nat.pow 10 (-j).toNat
  let grid := Nat.pow 10 j.toNat * Nat.pow 2 (-i.unit).toNat
  let middle := i.middle * factor
  let below := middle / grid
  let above := below + 1
  let down := middle - below * grid
  let up := above * grid - middle
  let even := if below % 2 = 0 then below else above
  let first :=
    if down < up then below
    else if up < down then above
    else
      match choice with
      | .up => above
      | _ => even
  let second := if first = below then above else below
  if i.contains factor (first * grid) then some first
  else if choice != .nearest && i.contains factor (second * grid) then some second
  else none

/-- The first hit on the grids `10 ^ j`, `10 ^ (j - 1)`, … -/
def search (i : Interval) (choice : Choice) : Nat → Int → Option Decimal
  | 0, _ => none
  | steps + 1, j =>
    match i.hit choice j with
    | some digits => some ⟨digits, j⟩
    | none => search i choice steps (j - 1)

/-- All digits of `m · 2 ^ q`. -/
def exact (m : Nat) (q : Int) : Decimal :=
  if 0 ≤ q then ⟨m * Nat.pow 2 q.toNat, 0⟩ else ⟨m * Nat.pow 5 (-q).toNat, q⟩

/-- A power of ten that is at least as large as the number. -/
def coarse (x : Double) : Int :=
  ((Nat.log2 x.significand : Int) + x.exponent + 1) * 30103 / 100000 + 2

/-- The shortest decimal that rounds to the finite nonzero number `x`.
Seventeen digits are always enough, so the search over twenty-four grids finds
one; the exact digits stand in otherwise. -/
def shortest (choice : Choice) (x : Double) : Decimal :=
  (search (Interval.of x) choice 24 (coarse x)).getD (exact x.significand x.exponent)

/-- The exponent of the first digit. -/
def scientific (d : Decimal) : Int := (d.digits.repr.length : Int) - 1 + d.exponent

end Decimal

end ScriptHost
