import ScriptHost.Number.Layout
import ScriptHost.Script.Token
import ScriptHost.Script.Property

/-!
# Conversions

How one kind of value becomes another.  Objects are asked for a primitive value
first, which may run code; everything after that is a function of the value.
-/

namespace ScriptHost.Script

variable (ev : Evaluator)

/-! ## Primitive values -/

/-- Whether a value counts as true. -/
def Val.truthy : Val → Bool
  | .undefined => false
  | .null => false
  | .bool b => b
  | .int n => n != 0
  | .float x => !(x.isZero || x.isNaN)
  | .string s => !s.isEmpty
  | .symbol _ => true
  | .bigint n => n != 0
  | .object _ => true

/-- The number that a small integer or a double is. -/
def Val.number? : Val → Option Double
  | .int n => some (Double.ofInt n.toInt)
  | .float x => some x
  | _ => none

/-- The text of a primitive value, unless it has none. -/
def Val.text? : Val → Option Units
  | .undefined => some (text "undefined")
  | .null => some (text "null")
  | .bool b => some (text (if b then "true" else "false"))
  | .int n => some (text (toString n.toInt))
  | .float x => some (text (scriptLayout.render x))
  | .string s => some s
  | .bigint n => some (text (toString n))
  | .symbol _ => none
  | .object _ => none

/-- The name of a value's type. -/
def Heap.typeName (h : Heap) : Val → String
  | .undefined => "undefined"
  | .null => "object"
  | .bool _ => "boolean"
  | .int _ => "number"
  | .float _ => "number"
  | .string _ => "string"
  | .symbol _ => "symbol"
  | .bigint _ => "bigint"
  | .object r => if (h.object r).callable?.isSome then "function" else "object"

/-! ## Numbers from strings -/

private def digitValue? (c : Char) : Option Nat :=
  if '0' ≤ c && c ≤ '9' then some (c.toNat - 48)
  else if 'a' ≤ c && c ≤ 'z' then some (c.toNat - 87)
  else if 'A' ≤ c && c ≤ 'Z' then some (c.toNat - 55)
  else none

/-- The digits of a base at the front of a text, their value and their count. -/
private def leadingDigits (base : Nat) : List Char → Nat → Nat → Nat × Nat × List Char
  | [], value, count => (value, count, [])
  | c :: cs, value, count =>
    match digitValue? c with
    | some d =>
      if d < base then leadingDigits base cs (base * value + d) (count + 1)
      else (value, count, c :: cs)
    | none => (value, count, c :: cs)

private def wholeNumber (base : Nat) (cs : List Char) : Double :=
  match leadingDigits base cs 0 0 with
  | (value, count, []) => if count = 0 then .nan else Double.ofInt value
  | _ => .nan

/-- The exponent that is all of a text. -/
private def exponentOf? (cs : List Char) : Option Int :=
  match cs with
  | [] => some 0
  | c :: rest =>
    if c = 'e' || c = 'E' then
      let (negative, rest) :=
        match rest with
        | '-' :: rest => (true, rest)
        | '+' :: rest => (false, rest)
        | rest => (false, rest)
      match leadingDigits 10 rest 0 0 with
      | (value, count, []) =>
        if count = 0 then none else some (if negative then -(value : Int) else value)
      | _ => none
    else none

private def decimalNumber (negative : Bool) (cs : List Char) : Double :=
  if cs = "Infinity".toList then .infinity negative
  else
    let (whole, wholeCount, rest) := leadingDigits 10 cs 0 0
    let (digits, count, rest) :=
      match rest with
      | '.' :: rest => leadingDigits 10 rest whole 0
      | rest => (whole, 0, rest)
    match exponentOf? rest with
    | some e =>
      if wholeCount + count = 0 then .nan else Double.ofDecimal negative digits (e - count)
    | none => .nan

private def isSpace (c : Char) : Bool := Lexeme.isBlank c || Lexeme.isLineEnd c

private def trimmed (cs : List Char) : List Char :=
  ((cs.dropWhile isSpace).reverse.dropWhile isSpace).reverse

/-- The number that a string spells. -/
def numberOfUnits (s : Units) : Double :=
  match (Units.decode s).map trimmed with
  | none => .nan
  | some [] => .zero false
  | some ('0' :: c :: cs) =>
    if c = 'x' || c = 'X' then wholeNumber 16 cs
    else if c = 'o' || c = 'O' then wholeNumber 8 cs
    else if c = 'b' || c = 'B' then wholeNumber 2 cs
    else decimalNumber false ('0' :: c :: cs)
  | some ('-' :: cs) => decimalNumber true cs
  | some ('+' :: cs) => decimalNumber false cs
  | some cs => decimalNumber false cs

/-! ## Objects -/

/-- Whether a conversion prefers text or a number. -/
inductive Preference where
  | text
  | number
  deriving DecidableEq

def isObject : Val → Bool
  | .object _ => true
  | _ => false

/-- Asks the methods of an object in order for a primitive value. -/
def firstPrimitive (v : Val) : List String → Action Val
  | [] => raiseError .type (text "toPrimitive")
  | m :: rest => do
    let f ← getProperty ev v (key m)
    let callable ← Action.read fun h => h.isCallable f
    if callable then do
      let x ← ev.call f v []
      if isObject x then firstPrimitive v rest else pure x
    else firstPrimitive v rest

/-- The primitive value of a value. -/
def toPrimitive (p : Preference) (v : Val) : Action Val :=
  if isObject v then
    firstPrimitive ev v
      (if p = .text then ["toString", "valueOf"] else ["valueOf", "toString"])
  else pure v

/-- The text of a value. -/
def toUnits (v : Val) : Action Units := do
  let x ← toPrimitive ev .text v
  match x.text? with
  | some s => pure s
  | none => raiseError .type (text "cannot convert symbol to string")

/-- The number of a value, in either representation. -/
def toNumeric (v : Val) : Action Val := do
  let x ← toPrimitive ev .number v
  match x with
  | .undefined => pure (.float .nan)
  | .null => pure (.int 0)
  | .bool b => pure (.int (if b then 1 else 0))
  | .int n => pure (.int n)
  | .float x => pure (.float x)
  | .string s => pure (.ofNumber (numberOfUnits s))
  | .symbol _ => raiseError .type (text "cannot convert symbol to number")
  | .bigint _ => raiseError .type (text "cannot convert bigint to number")
  | .object _ => pure (.float .nan)

/-- The number of a value. -/
def toDouble (v : Val) : Action Double := do
  let x ← toNumeric ev v
  pure (x.number?.getD .nan)

/-- The property key of a value. -/
def toKey (v : Val) : Action Key := do
  let x ← toPrimitive ev .text v
  match x with
  | .symbol id => pure (.symbol id)
  | x => pure (.name (x.text?.getD []))

/-! ## Equality -/

/-- Equality without conversion: numbers by value, "not a number" differs from
itself. -/
def Val.identical (a b : Val) : Bool :=
  match a.number?, b.number? with
  | some x, some y => x.equal y
  | none, none => a == b
  | _, _ => false

/-- The equality that tells the zeros apart and finds every "not a number" equal
to itself. -/
def Val.sameValue (a b : Val) : Bool :=
  match a.number?, b.number? with
  | some x, some y => if x.isNaN then y.isNaN else x == y
  | none, none => a == b
  | _, _ => false

private def isAbsent : Val → Bool
  | .undefined => true
  | .null => true
  | _ => false

/-- Equality of primitive values after conversion to numbers. -/
def looselyEqualPrimitives (a b : Val) : Action Bool :=
  match a, b with
  | .symbol _, _ => pure false
  | _, .symbol _ => pure false
  | .bigint n, b => do
    let y ← toDouble ev b
    pure (y.toInt? == some n)
  | a, .bigint n => do
    let x ← toDouble ev a
    pure (x.toInt? == some n)
  | a, b => do
    let x ← toDouble ev a
    let y ← toDouble ev b
    pure (x.equal y)

private def sameType (h : Heap) (a b : Val) : Bool :=
  h.typeName a == h.typeName b || (isObject a && isObject b)

/-- Equality that converts. -/
def looselyEqual (a b : Val) : Action Bool := do
  let same ← Action.read fun h => sameType h a b
  if isAbsent a || isAbsent b then pure (isAbsent a && isAbsent b)
  else if same then pure (a.identical b)
  else do
    let x ← toPrimitive ev .number a
    let y ← toPrimitive ev .number b
    match x, y with
    | .string s, .string t => pure (s == t)
    | x, y => looselyEqualPrimitives ev x y

end ScriptHost.Script
