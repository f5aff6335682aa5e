import ScriptHost.Script.Evaluator

/-!
# Properties

Reading a property follows the prototypes.  Null and undefined have no
properties; every other primitive value has those of the prototype of its type,
and a string has its length and its units too.
-/

namespace ScriptHost.Script

variable (ev : Evaluator)

/-- Where the properties of a primitive value are found. -/
def prototypeOf? : Val → Option ObjectRef
  | .undefined => none
  | .null => none
  | .bool _ => some Place.booleanPrototype
  | .int _ => some Place.numberPrototype
  | .float _ => some Place.numberPrototype
  | .string _ => some Place.stringPrototype
  | .symbol _ => some Place.symbolPrototype
  | .bigint _ => some Place.bigintPrototype
  | .object r => some r

/-- A number as a value: a small integer if it is one. -/
def Val.ofNumber (x : Double) : Val :=
  match x.toInt32? with
  | some n => .int (Int32.ofInt n)
  | none => .float x

/-- A size as a value. -/
def Val.ofNat (n : Nat) : Val := .ofNumber (Double.ofInt n)

/-- The own properties that a string has without being an object. -/
def stringProperty? (s : Units) (k : Key) : Option Val :=
  match k with
  | .name n =>
    if n == text "length" then some (.ofNat s.length)
    else n.arrayIndex?.bind fun i => s[i]?.map fun u => .string [u]
  | .symbol _ => none

/-- The value of a property for a receiver. -/
def Slot.value (receiver : Val) : Slot → Action Val
  | .data v _ => pure v
  | .accessor .undefined _ => pure .undefined
  | .accessor g _ => ev.call g receiver []

/-- Reads a property of a value. -/
def getProperty (v : Val) (k : Key) : Action Val :=
  match prototypeOf? v with
  | none =>
    raiseAboutKey .type "cannot read property '" k
      (if v = .null then "' of null" else "' of undefined")
  | some r => do
    let own :=
      match v with
      | .string s => stringProperty? s k
      | _ => none
    match own with
    | some x => pure x
    | none =>
      let found ← Action.read fun h => h.findProperty? r k
      match found with
      | some (_, p) => p.slot.value ev v
      | none => pure .undefined

/-! ## Making objects -/

/-- A new object of a kind with given properties. -/
def newObject (kind : ObjectKind) (prototype : ObjectRef) (properties : List (Key × Property)) :
    Action Val :=
  Action.update fun h =>
    let (r, h) := h.allocate (.make kind (some prototype) properties)
    (.object r, h)

/-- A new pattern, which keeps where its next search starts. -/
def newPattern (l : Pattern.Literal) : Action Val :=
  newObject (.pattern l) Place.patternPrototype
    [(key "lastIndex", ⟨.data (.int 0) true, false, false⟩)]

/-- The length of an array as a property. -/
def lengthProperty (n : Nat) : Key × Property :=
  (key "length", ⟨.data (.ofNat n) true, false, false⟩)

/-- Stores values under consecutive keys, leaving out what is missing. -/
def Object.fill (o : Object) : Nat → List (Option Val) → Object
  | _, [] => o
  | n, none :: vs => o.fill (n + 1) vs
  | n, some v :: vs => (o.put (indexKey n) (.plain v)).fill (n + 1) vs

/-- A new array in which elements may be missing. -/
def newSparseArray (vs : List (Option Val)) : Action Val :=
  Action.update fun h =>
    let o := Object.make .array (some Place.arrayPrototype) [lengthProperty vs.length]
    let (r, h) := h.allocate (o.fill 0 vs)
    (.object r, h)

/-- A new array. -/
def newArray (vs : List Val) : Action Val := newSparseArray (vs.map some)

/-- The properties that every function has. -/
def functionProperties (name : Units) (length : Nat) : List (Key × Property) :=
  [(key "length", .readOnly (.ofNat length)), (key "name", .readOnly (.string name))]

end ScriptHost.Script
