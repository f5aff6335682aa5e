import ScriptHost.Script.Builtin.Object
import ScriptHost.Text.UpperCase

/-!
# Functions on texts, arrays and numbers
-/

namespace ScriptHost.Script

variable (ev : Evaluator)

/-! ## Texts -/

/-- The text of a receiver that is not null or undefined. -/
def receiverUnits (receiver : Val) : Action Units :=
  match receiver with
  | .undefined => raiseError .type (text "null or undefined are forbidden")
  | .null => raiseError .type (text "null or undefined are forbidden")
  | v => toUnits ev v

/-- A string in upper case.  Unpaired surrogates have none and stay. -/
def upperUnits : Units → Units
  | [] => []
  | [u] =>
    if Units.isHigh u || Units.isLow u then [u]
    else Units.encode (Text.upperChar (Char.ofNat u.toNat))
  | u :: v :: rest =>
    if Units.isHigh u && Units.isLow v then
      Units.encode (Text.upperChar (Units.pairChar u v)) ++ upperUnits rest
    else if Units.isHigh u || Units.isLow u then u :: upperUnits (v :: rest)
    else Units.encode (Text.upperChar (Char.ofNat u.toNat)) ++ upperUnits (v :: rest)

/-- The longest string there is. -/
def longestString : Nat := 1073741823

/-- A string as often as a number says. -/
def stringRepeat (receiver n : Val) : Action Val := do
  let s ← receiverUnits ev receiver
  let x ← toDouble ev n
  let count : Int := if x.isNaN then 0 else if x.isInfinite then -1 else x.truncate
  if count < 0 || 2147483647 < count then raiseError .range (text "invalid repeat count")
  else if s.isEmpty then pure (.string [])
  else if longestString < s.length * count.toNat then
    raiseError .range (text "invalid string length")
  else do
    reserve ev (count.toNat * stringBytes s)
    pure (.string (List.replicate count.toNat s).flatten)

/-- The units of a list of codes. -/
def stringFromCharCode (vs : List Val) : Action Val := do
  let us ← Action.each (fun v => do
    let x ← toDouble ev v
    pure (UInt16.ofNat (if x.isFinite then x.truncate % 65536 else 0).toNat)) vs
  pure (.string us)

/-- What is in front of the first occurrence of a pattern, and what is behind it. -/
def splitAtFirst (pattern : Units) : Units → Units → Option (Units × Units)
  | [], front => if pattern.isEmpty then some (front.reverse, []) else none
  | u :: us, front =>
    if pattern.isPrefixOf (u :: us) then some (front.reverse, (u :: us).drop pattern.length)
    else splitAtFirst pattern us (u :: front)

/-- A replacement text with its references to the match filled in. -/
def fillReplacement (front found back : Units) : Units → Units
  | [] => []
  | [u] => [u]
  | u :: v :: rest =>
    if u = 36 then
      if v = 36 then 36 :: fillReplacement front found back rest
      else if v = 38 then found ++ fillReplacement front found back rest
      else if v = 96 then front ++ fillReplacement front found back rest
      else if v = 39 then back ++ fillReplacement front found back rest
      else u :: fillReplacement front found back (v :: rest)
    else u :: fillReplacement front found back (v :: rest)

/-- What a value has under a symbol, to be called instead: undefined if it has nothing. -/
def methodOf (v : Val) (symbol : Nat) : Action Val :=
  match v with
  | .undefined => pure .undefined
  | .null => pure .undefined
  | v => do
    let f ← getProperty ev v (.symbol symbol)
    pure (if f = .null then .undefined else f)

/-- Replaces the first occurrence of a text; what is no text may have a function for
replacing itself. -/
def stringReplace (receiver pattern replacement : Val) : Action Val := do
  if receiver = .undefined || receiver = .null then
    raiseError .type (text "null or undefined are forbidden")
  else do
    let f ← methodOf ev pattern Place.replaceSymbol
    if f != .undefined then ev.call f pattern [receiver, replacement]
    else do
      let s ← toUnits ev receiver
      let p ← toUnits ev pattern
      let callable ← Action.read fun h => h.isCallable replacement
      let r ← if callable then pure [] else toUnits ev replacement
      match splitAtFirst p s [] with
      | none => pure (.string s)
      | some (front, back) =>
        if callable then do
          let v ← ev.call replacement .undefined [.string p, .ofNat front.length, .string s]
          let r ← toUnits ev v
          pure (.string (front ++ r ++ back))
        else pure (.string (front ++ fillReplacement front p back r ++ back))

/-! ## Receivers that are primitive -/

/-- The primitive value that a receiver is or wraps, if it is of the right type. -/
def unboxed (accepts : Val → Bool) (receiver : Val) (complaint : String) :
    Action Val := do
  let v ← Action.read fun h =>
    match receiver with
    | .object r =>
      match (h.object r).kind with
      | .boxed v => v
      | _ => receiver
    | v => v
  if accepts v then pure v else raiseError .type (text complaint)

def stringReceiver (receiver : Val) : Action Val :=
  unboxed (fun v =>
    match v with
    | .string _ => true
    | _ => false) receiver "not a string"

def numberReceiver (receiver : Val) : Action Val :=
  unboxed (fun v => v.number?.isSome) receiver "not a number"

def booleanReceiver (receiver : Val) : Action Val :=
  unboxed (fun v =>
    match v with
    | .bool _ => true
    | _ => false) receiver "not a boolean"

def symbolReceiver (receiver : Val) : Action Val :=
  unboxed (fun v =>
    match v with
    | .symbol _ => true
    | _ => false) receiver "not a symbol"

/-! ## Arrays -/

/-- The largest integer that is told apart from its neighbours. -/
def largestLength : Nat := 9007199254740991

/-- The length of an array-like value. -/
def lengthOf (v : Val) : Action Nat := do
  let n ← getProperty ev v (key "length")
  let x ← toDouble ev n
  pure (
    if x.isNaN then 0
    else if x.isInfinite then (if x.negative then 0 else largestLength)
    else Nat.min x.truncate.toNat largestLength)

/-- The text of an element of a list. -/
def elementText (v : Val) : Action Units :=
  match v with
  | .undefined => pure []
  | .null => pure []
  | v => toUnits ev v

/-- The texts of the elements with a separator between them. -/
def arrayJoin (receiver separator : Val) : Action Val := do
  let o ← toObject receiver
  let n ← lengthOf ev o
  let sep ← if separator = .undefined then pure (text ",") else toUnits ev separator
  let parts ← Action.each (fun i => do
    let v ← getProperty ev o (indexKey i)
    elementText ev v) (List.range n)
  newString ev (sep.intercalate parts)

/-- Writes values behind the last element. -/
def arrayPush (receiver : Val) (vs : List Val) : Action Val := do
  let o ← toObject receiver
  let n ← lengthOf ev o
  if largestLength < n + vs.length then raiseError .type (text "Array loo long")
  else do
    let _ ← Action.each (fun (i, v) => setProperty ev o (indexKey (n + i)) v)
      ((List.range vs.length).zip vs)
    setProperty ev o (key "length") (.ofNat (n + vs.length))
    pure (.ofNat (n + vs.length))

/-- A new array of given elements, or of a given length. -/
def arrayOf (vs : List Val) : Action Val :=
  match vs with
  | [v] =>
    match v.number? with
    | none => newArray [v]
    | some x =>
      match x.toInt? with
      | some n =>
        if 0 ≤ n ∧ n < 4294967296 then
          newObject .array Place.arrayPrototype [lengthProperty n.toNat]
        else raiseError .range (text "invalid array length")
      | none => raiseError .range (text "invalid array length")
  | vs => newArray vs

/-- The text of an array. -/
def arrayToString (receiver : Val) : Action Val := do
  let f ← getProperty ev receiver (key "join")
  let callable ← Action.read fun h => h.isCallable f
  if callable then ev.call f receiver [] else objectToString ev receiver

/-! ## Numbers -/

/-- Throws the error of what is there by name only. -/
def raiseUnsupported {α : Type} : Action α := raiseError .type (text "not supported")

private def digitChar (d : Nat) : Char := Char.ofNat (if d < 10 then 48 + d else 87 + d)

/-- The digits of a number in front of others. -/
private def digitsOnto (base : Nat) : Nat → Nat → List Char → List Char
  | 0, _, digits => digits
  | fuel + 1, n, digits =>
    let digits := digitChar (n % base) :: digits
    if n < base then digits else digitsOnto base fuel (n / base) digits

/-- An integer in a base up to thirty-six. -/
private def integerText (base : Nat) (n : Int) : Units :=
  let digits := digitsOnto base (n.natAbs.log2 + 1) n.natAbs []
  text (String.ofList (if n < 0 then '-' :: digits else digits))

/-- The text of a number, in a base if one is given. -/
def numberToString (receiver radix : Val) : Action Val := do
  let v ← numberReceiver receiver
  let decimal : Val := .string (v.text?.getD [])
  if radix = .undefined then pure decimal
  else do
    let x ← toDouble ev radix
    let base : Int := if x.isFinite then x.truncate else 0
    if base < 2 || 36 < base then raiseError .range (text "radix must be between 2 and 36")
    else if base = 10 then pure decimal
    else
      match v.number?.bind Double.toInt? with
      | some n => pure (.string (integerText base.toNat n))
      | none => if v.number?.any Double.isFinite then raiseUnsupported else pure decimal

def mathHypot (vs : List Val) : Action Val := do
  let xs ← Action.each (toDouble ev) vs
  pure (match xs with
    | [] => .float (.zero false)
    | x :: rest => .float (rest.foldl Double.hypot (if x.negative then x.neg else x)))

/-- The larger of two numbers; the positive zero is larger than the negative one. -/
private def larger (x y : Double) : Double :=
  if x.isNaN then x
  else if y.isNaN then y
  else if x.isZero && y.isZero then (if x.negative then y else x)
  else if x.less y then y else x

private def smaller (x y : Double) : Double := (larger x.neg y.neg).neg

/-- The largest or the smallest of the arguments. -/
def mathExtreme (largest : Bool) (vs : List Val) : Action Val := do
  let xs ← Action.each (toDouble ev) vs
  pure (match xs with
    | [] => .float (.infinity largest)
    | x :: rest => .ofNumber (rest.foldl (if largest then larger else smaller) x))

/-! ## Symbols -/

/-- The description of a symbol. -/
def symbolDescription (v : Val) : Action (Option Units) :=
  match v with
  | .symbol id => Action.read fun h => h.description? id
  | _ => pure none

/-- The text of a symbol. -/
def symbolToString (v : Val) : Action Val := do
  let d ← symbolDescription v
  pure (.string (text "Symbol(" ++ d.getD [] ++ text ")"))

/-- A new symbol with the description that a value gives. -/
def newSymbol (description : Val) : Action Val := do
  let d ←
    if description = .undefined then pure none
    else do
      let s ← toUnits ev description
      pure (some s)
  Action.update fun h =>
    let (id, h) := h.allocateSymbol d
    (.symbol id, h)

/-! ## Errors -/

/-- The text of an error: its name, and its message if it has one. -/
def errorToString (receiver : Val) : Action Val :=
  match receiver with
  | .object _ => do
    let name ← getProperty ev receiver (key "name")
    let name ← if name = .undefined then pure (text "Error") else toUnits ev name
    let message ← getProperty ev receiver (key "message")
    let message ← if message = .undefined then pure [] else toUnits ev message
    pure (.string (
      if name.isEmpty then message
      else if message.isEmpty then name
      else name ++ text ": " ++ message))
  | _ => raiseError .type (text "not an object")

/-- What an error is said to be caused by. -/
def causeOf (details : Val) : Action (Option Val) :=
  match details with
  | .object r => do
    let found ← Action.read fun h => (h.findProperty? r (key "cause")).isSome
    if found then do
      let v ← getProperty ev details (key "cause")
      pure (some v)
    else pure none
  | _ => pure none

/-- A new error with a message and a cause, if there are any. -/
def errorOf (t : ErrorType) (message details : Val) : Action Val := do
  let m ←
    if message = .undefined then pure none
    else do
      let m ← toUnits ev message
      pure (some m)
  let cause ← causeOf ev details
  let e ← newError t m (some ev.stack.caller.trace)
  match e, cause with
  | .object r, some c => do
    Action.change fun h => h.modify r fun o => o.put (key "cause") (.hidden c)
    pure e
  | e, _ => pure e

end ScriptHost.Script
