import ScriptHost.Script.Convert

/-!
# Operators

Arithmetic on small integers stays there as long as the result is one; a sum, a
difference or a product that is not, and everything that starts with a double,
is a double.  A remainder of small integers that is one becomes one; a quotient
does so only where no operand had to be converted.
-/

namespace ScriptHost.Script

variable (ev : Evaluator)

/-- An integer as a value. -/
def Val.ofInt (n : Int) : Val :=
  if Double.fitsInt32 n then .int (Int32.ofInt n) else .float (Double.ofInt n)

/-- The result of an arithmetic operator on small integers. -/
def integerArithmetic (op : BinaryOp) (a b : Int) : Val :=
  match op with
  | .add => .ofInt (a + b)
  | .sub => .ofInt (a - b)
  | .mul =>
    if a * b = 0 && (a < 0 || b < 0) then .float (.zero true) else .ofInt (a * b)
  | .div => .float (Double.div (Double.ofInt a) (Double.ofInt b))
  | _ =>
    if a < 0 || b ≤ 0 then .ofNumber (Double.rem (Double.ofInt a) (Double.ofInt b))
    else .ofInt (a % b)

/-- The result of an arithmetic operator on doubles. -/
def floatArithmetic (op : BinaryOp) (x y : Double) : Val :=
  match op with
  | .add => .float (x.add y)
  | .sub => .float (x.sub y)
  | .mul => .float (x.mul y)
  | .div => .float (x.div y)
  | _ => .float (x.rem y)

/-- An arithmetic operator on numbers. -/
def arithmetic (op : BinaryOp) (a b : Val) : Val :=
  match a, b with
  | .int m, .int n => integerArithmetic op m.toInt n.toInt
  | a, b => floatArithmetic op (a.number?.getD .nan) (b.number?.getD .nan)

/-- A quotient.  The one of two small integers that were not converted becomes a
small integer where it is one. -/
def divideValues (a b : Val) : Action Val :=
  match a, b with
  | .int m, .int n => pure (.ofNumber (Double.div (Double.ofInt m.toInt) (Double.ofInt n.toInt)))
  | a, b => do
    let m ← toNumeric ev a
    let n ← toNumeric ev b
    pure (arithmetic .div m n)

/-- Joins texts, or adds numbers. -/
def addValues (a b : Val) : Action Val := do
  let x ← toPrimitive ev .number a
  let y ← toPrimitive ev .number b
  let isText (v : Val) : Bool :=
    match v with
    | .string _ => true
    | _ => false
  if isText x || isText y then do
    let s ← toUnits ev x
    let t ← toUnits ev y
    newString ev (s ++ t)
  else do
    let m ← toNumeric ev x
    let n ← toNumeric ev y
    pure (arithmetic .add m n)

/-- The order of code units. -/
def unitsLess : Units → Units → Bool
  | _, [] => false
  | [], _ :: _ => true
  | u :: us, v :: vs => if u = v then unitsLess us vs else u < v

/-- Compares texts by their units and everything else by number. -/
def compareValues (op : BinaryOp) (a b : Val) : Action Bool := do
  let x ← toPrimitive ev .number a
  let y ← toPrimitive ev .number b
  match x, y with
  | .string s, .string t =>
    pure (match op with
      | .less => unitsLess s t
      | .lessEq => !unitsLess t s
      | .greater => unitsLess t s
      | _ => !unitsLess s t)
  | x, y => do
    let m ← toDouble ev x
    let n ← toDouble ev y
    pure (match op with
      | .less => m.less n
      | .lessEq => m.lessEq n
      | .greater => n.less m
      | _ => n.lessEq m)

/-- The function that a bound function stands for. -/
def Heap.unbound (h : Heap) (r : ObjectRef) : ObjectRef := go h.objects.size r
where
  go : Nat → ObjectRef → ObjectRef
    | 0, r => r
    | fuel + 1, r =>
      match (h.object r).kind with
      | .function (.bound target _ _ _) => go fuel target
      | _ => r

/-- Whether the prototype of a constructor is among those of a value. -/
def isInstance (v c : Val) : Action Bool := do
  let callable ← Action.read fun h => h.isCallable c
  match callable, c with
  | true, .object r => do
    let target ← Action.read fun h => h.unbound r
    match v with
    | .object x => do
      let p ← getProperty ev (.object target) (key "prototype")
      match p with
      | .object p => Action.read fun h => h.inherits x p
      | _ => raiseError .type (text "operand 'prototype' property is not an object")
    | _ => pure false
  | _, _ => raiseError .type (text "invalid 'instanceof' right operand")

/-- Whether an object has a property. -/
def hasProperty (k v : Val) : Action Bool :=
  match v with
  | .object r => do
    let k ← toKey ev k
    Action.read fun h => (h.findProperty? r k).isSome
  | _ => raiseError .type (text "invalid 'in' operand")

/-- The result of a binary operator. -/
def applyBinary (op : BinaryOp) (a b : Val) : Action Val :=
  match op with
  | .add => addValues ev a b
  | .div => divideValues ev a b
  | .sub | .mul | .rem => do
    let m ← toNumeric ev a
    let n ← toNumeric ev b
    pure (arithmetic op m n)
  | .less | .lessEq | .greater | .greaterEq => do
    let r ← compareValues ev op a b
    pure (.bool r)
  | .identical => pure (.bool (a.identical b))
  | .different => pure (.bool (!a.identical b))
  | .equal => do
    let r ← looselyEqual ev a b
    pure (.bool r)
  | .unequal => do
    let r ← looselyEqual ev a b
    pure (.bool (!r))
  | .instanceOf => do
    let r ← isInstance ev a b
    pure (.bool r)
  | .member => do
    let r ← hasProperty ev a b
    pure (.bool r)

/-- The number with its sign changed. -/
def negate : Val → Val
  | .int n =>
    if n = 0 then .float (.zero true) else .ofInt (-n.toInt)
  | .float x => .float x.neg
  | v => v

/-- The result of a unary operator. -/
def applyUnary (op : UnaryOp) (v : Val) : Action Val :=
  match op with
  | .plus => toNumeric ev v
  | .minus =>
    match v with
    | .bigint n => pure (.bigint (-n))
    | v => do
      let x ← toNumeric ev v
      pure (negate x)
  | .not => pure (.bool (!v.truthy))
  | .typeOf => Action.read fun h => .string (text (h.typeName v))
  | .discard => pure .undefined

end ScriptHost.Script
