/-!
# Double precision numbers as bit patterns

A number is its 64-bit pattern: one sign bit, eleven exponent bits and fifty-two
fraction bits.  A finite pattern stands for `± significand · 2 ^ exponent`, and
everything that has to be exact (which numbers are integers, what a quotient
rounds to, the remainder of a division) is computed from that reading with
natural numbers.  Arithmetic that only has to agree with the machine goes
through `Float`.

The two directions meet in `ofRatio`: it is the one place where a real number
is rounded, to the nearest pattern and to the even one of two equally near.
-/

namespace ScriptHost

/-- A double precision number, held as its bit pattern. -/
structure Double where
  bits : UInt64
  deriving DecidableEq, Repr, Inhabited

namespace Double

/-! ## The fields of a pattern -/

/-- The sign bit. -/
def negative (x : Double) : Bool := decide (Nat.pow 2 63 ≤ x.bits.toNat)

/-- The eleven exponent bits. -/
def exponentField (x : Double) : Nat := x.bits.toNat / Nat.pow 2 52 % Nat.pow 2 11

/-- The fifty-two fraction bits. -/
def fractionField (x : Double) : Nat := x.bits.toNat % Nat.pow 2 52

def isNaN (x : Double) : Bool := x.exponentField == 2047 && x.fractionField != 0

def isInfinite (x : Double) : Bool := x.exponentField == 2047 && x.fractionField == 0

def isFinite (x : Double) : Bool := x.exponentField != 2047

/-- Both zeros. -/
def isZero (x : Double) : Bool := x.exponentField == 0 && x.fractionField == 0

/-- The integer `m` of the reading `± m · 2 ^ q`. -/
def significand (x : Double) : Nat :=
  if x.exponentField = 0 then x.fractionField else x.fractionField + Nat.pow 2 52

/-- The exponent `q` of the reading `± m · 2 ^ q`. -/
def exponent (x : Double) : Int :=
  if x.exponentField = 0 then -1074 else (x.exponentField : Int) - 1075

/-- The pattern with the given fields. -/
def ofFields (negative : Bool) (exponentField fractionField : Nat) : Double :=
  ⟨UInt64.ofNat
    ((if negative then Nat.pow 2 63 else 0) + exponentField * Nat.pow 2 52 + fractionField)⟩

def zero (negative : Bool) : Double := ofFields negative 0 0

def infinity (negative : Bool) : Double := ofFields negative 2047 0

/-- The quiet pattern that stands for every "not a number". -/
def nan : Double := ofFields false 2047 (Nat.pow 2 51)

/-! ## Rounding -/

/-- The integer nearest to `n / d`, the even one of two equally near. -/
def roundDiv (n d : Nat) : Nat :=
  let k := n / d
  let r := n % d
  if 2 * r < d then k
  else if d < 2 * r then k + 1
  else k + k % 2

/-- `n / d / 2 ^ q` rounded to an integer. -/
def roundScaled (n d : Nat) (q : Int) : Nat :=
  if 0 ≤ q then roundDiv n (d * Nat.pow 2 q.toNat) else roundDiv (n * Nat.pow 2 (-q).toNat) d

/-- The exponent that a normal number near `n / d` has: the largest `q` with
`2 ^ 52 ≤ n / d / 2 ^ q`, and `-1074` where that would be smaller. -/
def binade (n d : Nat) : Int :=
  let q : Int := (Nat.log2 n : Int) - (Nat.log2 d : Int) - 52
  let reaches : Bool :=
    if 0 ≤ q then d * Nat.pow 2 (52 + q.toNat) ≤ n else d * Nat.pow 2 52 ≤ n * Nat.pow 2 (-q).toNat
  max (if reaches then q else q - 1) (-1074)

/-- `± m · 2 ^ q` as a pattern, for `m ≤ 2 ^ 53`: the mantissa that rounding
carried up to `2 ^ 53` moves into the next binade, one below `2 ^ 52` is
subnormal, and an exponent too large is an infinity. -/
def ofScaled (negative : Bool) (m : Nat) (q : Int) : Double :=
  if m < Nat.pow 2 52 then ofFields negative 0 m
  else
    let m' := if m = Nat.pow 2 53 then Nat.pow 2 52 else m
    let q' := if m = Nat.pow 2 53 then q + 1 else q
    let field := (q' + 1075).toNat
    if 2047 ≤ field then infinity negative else ofFields negative field (m' - Nat.pow 2 52)

/-- The number nearest to `± n / d`, ties to the even significand. -/
def ofRatio (negative : Bool) (n d : Nat) : Double :=
  if n = 0 then zero negative
  else
    let q := binade n d
    ofScaled negative (roundScaled n d q) q

/-- The number nearest to an integer. -/
def ofInt (n : Int) : Double := ofRatio (decide (n < 0)) n.natAbs 1

/-- The number nearest to `± digits · 10 ^ exponent`.  The two guards keep the
powers of ten small: beyond them the result is an infinity or a zero. -/
def ofDecimal (negative : Bool) (digits : Nat) (exponent : Int) : Double :=
  if digits = 0 then zero negative
  else if 400 < exponent then infinity negative
  else if 0 ≤ exponent then ofRatio negative (digits * Nat.pow 10 exponent.toNat) 1
  else if exponent < -400 - (Nat.log2 digits : Int) then zero negative
  else ofRatio negative digits (Nat.pow 10 (-exponent).toNat)

/-! ## Integers among the numbers -/

/-- The absolute value when it is an integer. -/
def natAbs? (x : Double) : Option Nat :=
  if x.isFinite then
    if 0 ≤ x.exponent then some (x.significand * Nat.pow 2 x.exponent.toNat)
    else
      let unit := Nat.pow 2 (-x.exponent).toNat
      if x.significand % unit = 0 then some (x.significand / unit) else none
  else none

/-- The value when it is an integer; both zeros are zero. -/
def toInt? (x : Double) : Option Int :=
  x.natAbs?.map fun n => if x.negative then -(n : Int) else (n : Int)

/-- The integers of thirty-two bits, in two's complement. -/
def fitsInt32 (n : Int) : Bool := decide (-2147483648 ≤ n ∧ n ≤ 2147483647)

/-- The value when it is a thirty-two bit integer other than negative zero. -/
def toInt32? (x : Double) : Option Int :=
  match x.toInt? with
  | some n => if fitsInt32 n && !(x.negative && n == 0) then some n else none
  | none => none

/-- The value of a finite number cut toward zero. -/
def truncate (x : Double) : Int :=
  let cut : Nat :=
    if 0 ≤ x.exponent then x.significand * Nat.pow 2 x.exponent.toNat
    else x.significand / Nat.pow 2 (-x.exponent).toNat
  if x.negative then -(cut : Int) else cut

/-- The value cut toward zero and clamped to thirty-two bits; zero for a
pattern that is not a number. -/
def clampInt32 (x : Double) : Int :=
  if x.isNaN then 0
  else if x.isInfinite then (if x.negative then -2147483648 else 2147483647)
  else max (-2147483648) (min x.truncate 2147483647)

/-! ## Arithmetic -/

def ofFloat (x : Float) : Double := ⟨x.toBits⟩

def toFloat (x : Double) : Float := Float.ofBits x.bits

def add (x y : Double) : Double := ofFloat (x.toFloat + y.toFloat)

def sub (x y : Double) : Double := ofFloat (x.toFloat - y.toFloat)

def mul (x y : Double) : Double := ofFloat (x.toFloat * y.toFloat)

def div (x y : Double) : Double := ofFloat (x.toFloat / y.toFloat)

def neg (x : Double) : Double := ⟨x.bits ^^^ 0x8000000000000000⟩

/-- Numeric order; nothing is less than or greater than "not a number". -/
def less (x y : Double) : Bool := x.toFloat < y.toFloat

def lessEq (x y : Double) : Bool := x.toFloat ≤ y.toFloat

/-- Numeric equality: the zeros are equal, "not a number" equals nothing. -/
def equal (x y : Double) : Bool := x.toFloat == y.toFloat

/-- The remainder of a division that is cut toward zero.  It takes the sign of
the dividend, and it is exact: both operands are multiples of one power of two. -/
def rem (x y : Double) : Double :=
  if x.isNaN || y.isNaN || x.isInfinite || y.isZero then nan
  else if y.isInfinite then x
  else
    let q := min x.exponent y.exponent
    let a := x.significand * Nat.pow 2 (x.exponent - q).toNat
    let b := y.significand * Nat.pow 2 (y.exponent - q).toNat
    let r := a % b
    if 0 ≤ q then ofRatio x.negative (r * Nat.pow 2 q.toNat) 1
    else ofRatio x.negative r (Nat.pow 2 (-q).toNat)

/-- The integer part of a square root, by halving the interval `[low, high)`. -/
private def sqrtSearch (n : Nat) : Nat → Nat → Nat → Nat
  | 0, low, _ => low
  | steps + 1, low, high =>
    if high ≤ low + 1 then low
    else
      let mid := (low + high) / 2
      if mid * mid ≤ n then sqrtSearch n steps mid high else sqrtSearch n steps low mid

/-- The largest `k` with `k * k ≤ n`. -/
def natSqrt (n : Nat) : Nat :=
  let top := Nat.pow 2 (Nat.log2 n / 2 + 1)
  sqrtSearch n (Nat.log2 n + 2) 0 top

/-- The length of the hypotenuse over two finite sides.  The sum of the squares
is taken exactly and its root to sixty-four bits more than a significand has. -/
private def hypotFinite (x y : Double) : Double :=
  let q := min x.exponent y.exponent
  let a := x.significand * Nat.pow 2 (x.exponent - q).toNat
  let b := y.significand * Nat.pow 2 (y.exponent - q).toNat
  let sum := a * a + b * b
  let root := natSqrt (sum * Nat.pow 2 240)
  let sticky := if root * root = sum * Nat.pow 2 240 then 2 * root else 2 * root + 1
  let scale := q - 121
  if 0 ≤ scale then ofRatio false (sticky * Nat.pow 2 scale.toNat) 1
  else ofRatio false sticky (Nat.pow 2 (-scale).toNat)

/-- The length of the hypotenuse; an infinite side wins over "not a number". -/
def hypot (x y : Double) : Double :=
  if x.isInfinite || y.isInfinite then infinity false
  else if x.isNaN || y.isNaN then nan
  else hypotFinite x y

end Double

end ScriptHost
