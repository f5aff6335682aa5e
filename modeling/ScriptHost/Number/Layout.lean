import ScriptHost.Number.Decimal

/-!
# Layouts of numbers

A layout says how the decimal of a number is written: where positional notation
ends, whether an integer keeps a `.0`, how the exponent is signed, and how the
values without digits are spelled.  The four layouts of the library are the
values of this one record at the end of the module.
-/

namespace ScriptHost

/-- The decisions that turn the decimal of a number into text. -/
structure Layout where
  /-- Which decimal is written. -/
  choice : Choice
  /-- Smallest exponent of the first digit that is written without exponent. -/
  positionalFrom : Option Int
  /-- Largest exponent of the first digit that is written without exponent. -/
  positionalTo : Option Int
  /-- Integers in positional notation end in `.0`. -/
  pointZero : Bool
  /-- Integers below `10 ^ 21` are written with all their digits. -/
  exactIntegers : Bool
  /-- A positive exponent has a sign. -/
  plusSign : Bool
  /-- Negative zero keeps its sign. -/
  signedZero : Bool
  infinity : String

namespace Layout

private def zeros (n : Nat) : String := String.ofList (List.replicate n '0')

/-- The digits of a decimal without exponent. -/
def positional (pointZero : Bool) (d : Decimal) : String :=
  let text := d.digits.repr
  if 0 ≤ d.exponent then
    text ++ zeros d.exponent.toNat ++ (if pointZero then ".0" else "")
  else
    let places := (-d.exponent).toNat
    if places < text.length then
      let whole := text.toList.take (text.length - places)
      let rest := text.toList.drop (text.length - places)
      String.ofList whole ++ "." ++ String.ofList rest
    else "0." ++ zeros (places - text.length) ++ text

/-- The digits of a decimal with one of them before the point and an exponent. -/
def exponential (plusSign : Bool) (d : Decimal) : String :=
  let e := d.scientific
  let mantissa :=
    match d.digits.repr.toList with
    | [] => ""
    | [c] => String.singleton c
    | c :: rest => String.singleton c ++ "." ++ String.ofList rest
  let sign := if e < 0 then "-" else if plusSign then "+" else ""
  mantissa ++ "e" ++ sign ++ e.natAbs.repr

/-- Whether a decimal is written without exponent. -/
def isPositional (l : Layout) (d : Decimal) : Bool :=
  let e := d.scientific
  (match l.positionalFrom with
    | some low => decide (low ≤ e)
    | none => true) &&
  (match l.positionalTo with
    | some high => decide (e ≤ high)
    | none => true)

/-- The text of a finite nonzero number without its sign, from its shortest
decimal. -/
def ofShortest (l : Layout) (x : Double) : String :=
  let d := Decimal.shortest l.choice x
  if l.isPositional d then positional l.pointZero d else exponential l.plusSign d

/-- The text of a finite nonzero number without its sign. -/
def unsigned (l : Layout) (x : Double) : String :=
  match (if l.exactIntegers then x.natAbs? else none) with
  | some n => if n < Nat.pow 10 21 then n.repr else l.ofShortest x
  | none => l.ofShortest x

/-- The text of a number. -/
def render (l : Layout) (x : Double) : String :=
  if x.isNaN then "NaN"
  else if x.isZero then
    (if x.negative && l.signedZero then "-" else "") ++ (if l.pointZero then "0.0" else "0")
  else
    (if x.negative then "-" else "") ++
      (if x.isInfinite then l.infinity else l.unsigned x)

end Layout

/-- How the host prints a number: plain digits throughout, and integers below
`10 ^ 21` to the last digit. -/
def hostLayout : Layout :=
  { choice := .up, positionalFrom := none, positionalTo := none, pointZero := false
    exactIntegers := true, plusSign := false, signedZero := false, infinity := "Infinity" }

/-- How a number stands in a debug text: with `.0` on integers, and with an
exponent below `10 ^ -4` and from `10 ^ 16`. -/
def debugLayout : Layout :=
  { choice := .up, positionalFrom := some (-4), positionalTo := some 15, pointZero := true
    exactIntegers := false, plusSign := false, signedZero := true, infinity := "inf" }

/-- How a script turns a number into a string. -/
def scriptLayout : Layout :=
  { choice := .nearest, positionalFrom := some (-6), positionalTo := some 20, pointZero := false
    exactIntegers := false, plusSign := true, signedZero := false, infinity := "Infinity" }

/-- How a number stands in a message about a configuration. -/
def configLayout : Layout :=
  { choice := .even, positionalFrom := some (-5), positionalTo := some 15, pointZero := true
    exactIntegers := false, plusSign := true, signedZero := true, infinity := "inf" }

end ScriptHost
