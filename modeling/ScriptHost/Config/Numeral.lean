import ScriptHost.Config.Cursor

/-!
# Numbers of a document

A number is read as an unsigned significand of sixty-four bits and a power of
ten.  Without fraction and exponent it is an integer while it fits sixty-four
bits; anything else is a floating point number, and so is `-0`.

The floating point value is only ever shown in a message.  It is the product (or
quotient) of the significand and one power of ten, each rounded on its own.
-/

namespace ScriptHost.Config

/-- A number of a document. -/
inductive Numeral where
  | natural (n : Nat)
  | negative (n : Nat)
  | float (x : Double)
  deriving DecidableEq, Repr

/-- A number as a value in a message. -/
def Numeral.found : Numeral → Found
  | .natural n => .integer n
  | .negative n => .integer (-(n : Int))
  | .float x => .float x

def isDigit (b : UInt8) : Bool := decide (48 ≤ b.toNat ∧ b.toNat ≤ 57)

/-- The value of a digit. -/
def digitValue (b : UInt8) : Nat := b.toNat - 48

/-- The digits at the cursor, and the cursor behind them. -/
def Cursor.digits (c : Cursor) : List UInt8 × Cursor :=
  let ds := c.rest.takeWhile isDigit
  (ds, ⟨c.rest.dropWhile isDigit, c.line, c.column + ds.length⟩)

/-- Appends digits to a significand while it stays within sixty-four bits.
The second component is how many digits were left over. -/
def accumulate : Nat → List UInt8 → Nat × Nat
  | n, [] => (n, 0)
  | n, d :: ds =>
    let m := n * 10 + digitValue d
    if m < Nat.pow 2 64 then accumulate m ds else (n, (d :: ds).length)

/-- The power `10 ^ n` as a number. -/
def tenPower (n : Nat) : Double := Double.ofDecimal false 1 n

/-- Scales by `10 ^ exponent` in steps of at most `10 ^ 308`; nothing when the
result is too large. -/
def scale : Nat → Double → Int → Option Double
  | 0, x, _ => some x
  | steps + 1, x, exponent =>
    if exponent.natAbs ≤ 308 then
      if 0 ≤ exponent then
        let y := x.mul (tenPower exponent.natAbs)
        if y.isInfinite then none else some y
      else some (x.div (tenPower exponent.natAbs))
    else if x.isZero then some x
    else if 0 ≤ exponent then none
    else scale steps (x.div (tenPower 308)) (exponent + 308)

/-- The floating point value of a significand and an exponent.  Three steps of
the scaling reach zero from every significand. -/
def floatOfParts (negative : Bool) (significand : Nat) (exponent : Int) : Option Double :=
  (scale 4 (Double.ofRatio false significand 1) exponent).map fun x =>
    if negative then x.neg else x

/-- A floating point number whose last byte was just read. -/
def finishFloat (negative : Bool) (significand : Nat) (exponent : Int) (c : Cursor) :
    Reading Numeral :=
  match floatOfParts negative significand exponent with
  | some x => .ok (.float x, c)
  | none => c.fail .numberOutOfRange

/-- The digits of an exponent after its first one, until the exponent leaves
thirty-two bits: then the number is a zero, or out of range at that digit. -/
def exponentDigits (negative : Bool) (significand : Nat) (start : Int)
    (positiveExponent : Bool) : Nat → List UInt8 → Cursor → Reading Numeral
  | e, [], c =>
    let limited := min (max (if positiveExponent then start + e else start - e) (-2147483648))
      2147483647
    finishFloat negative significand limited c
  | e, d :: ds, c =>
    let m := e * 10 + digitValue d
    if m ≤ 2147483647 then
      exponentDigits negative significand start positiveExponent m ds c.next
    else if significand != 0 && positiveExponent then c.next.fail .numberOutOfRange
    else .ok (.float (Double.zero negative), c.next.skip ds.length)

/-- The exponent of a number, from its letter on. -/
def readExponent (negative : Bool) (significand : Nat) (start : Int) (c : Cursor) :
    Reading Numeral :=
  let c := c.next
  let positiveExponent := !c.sees '-'
  let c := if c.sees '+' || c.sees '-' then c.next else c
  match c.rest with
  | [] => c.fail .endInValue
  | d :: _ =>
    if isDigit d then
      exponentDigits negative significand start positiveExponent (digitValue d)
        c.next.digits.1 c.next
    else c.next.fail .invalidNumber

/-- The fraction of a number, from its point on. -/
def readFraction (negative : Bool) (significand : Nat) (start : Int) (c : Cursor) :
    Reading Numeral :=
  let c := c.next
  let (ds, after) := c.digits
  if ds.isEmpty then
    match c.rest with
    | [] => c.failPeek .endInValue
    | _ => c.failPeek .invalidNumber
  else
    let (m, left) := accumulate significand ds
    let exponent := start - ((ds.length - left : Nat) : Int)
    if after.sees 'e' || after.sees 'E' then readExponent negative m exponent after
    else finishFloat negative m exponent after

/-- What follows the integer digits of a number. -/
def afterInteger (negative : Bool) (significand : Nat) (left : Nat) (c : Cursor) :
    Reading Numeral :=
  if c.sees '.' then readFraction negative significand left c
  else if c.sees 'e' || c.sees 'E' then readExponent negative significand left c
  else if 0 < left then finishFloat negative significand left c
  else if !negative then .ok (.natural significand, c)
  else if significand = 0 || Nat.pow 2 63 < significand then
    .ok (.float (Double.ofRatio true significand 1), c)
  else .ok (.negative significand, c)

/-- A number behind its sign. -/
def readUnsigned (negative : Bool) (c : Cursor) : Reading Numeral :=
  match c.rest with
  | [] => c.fail .endInValue
  | d :: _ =>
    if d = ascii '0' then
      match c.next.peek with
      | some b =>
        if isDigit b then c.next.failPeek .invalidNumber else afterInteger negative 0 0 c.next
      | none => afterInteger negative 0 0 c.next
    else if isDigit d then
      let (ds, after) := c.digits
      let (significand, left) := accumulate 0 ds
      afterInteger negative significand left after
    else c.next.fail .invalidNumber

/-- A number that begins at the cursor with a minus sign or a digit. -/
def readNumeral (c : Cursor) : Reading Numeral :=
  if c.sees '-' then readUnsigned true c.next else readUnsigned false c

/-! ## Skipping a number -/

def skipExponent (c : Cursor) : Except ReadError Cursor :=
  let c := c.next
  let c := if c.sees '+' || c.sees '-' then c.next else c
  match c.rest with
  | [] => c.fail .invalidNumber
  | d :: _ => if isDigit d then .ok c.next.digits.2 else c.next.fail .invalidNumber

def skipFraction (c : Cursor) : Except ReadError Cursor :=
  let (ds, after) := c.next.digits
  if ds.isEmpty then after.failPeek .invalidNumber
  else if after.sees 'e' || after.sees 'E' then skipExponent after
  else .ok after

def skipUnsigned (c : Cursor) : Except ReadError Cursor :=
  match c.rest with
  | [] => c.fail .invalidNumber
  | d :: _ =>
    if d = ascii '0' && (c.next.peek.map isDigit).getD false then
      c.next.failPeek .invalidNumber
    else if isDigit d then
      let after := if d = ascii '0' then c.next else c.digits.2
      if after.sees '.' then skipFraction after
      else if after.sees 'e' || after.sees 'E' then skipExponent after
      else .ok after
    else c.next.fail .invalidNumber

/-- The cursor behind a number whose value does not matter. -/
def skipNumeral (c : Cursor) : Except ReadError Cursor :=
  if c.sees '-' then skipUnsigned c.next else skipUnsigned c

end ScriptHost.Config
