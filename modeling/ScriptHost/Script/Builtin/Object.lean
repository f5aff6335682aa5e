import ScriptHost.Script.Function

/-!
# Functions on objects

Listing, freezing and defining properties, the prototype of an object, and what
functions can do with other functions.
-/

namespace ScriptHost.Script

variable (ev : Evaluator)

/-- An argument, undefined past the end. -/
def argument (vs : List Val) (n : Nat) : Val := vs.getD n .undefined

/-- The object that a value is or is wrapped in. -/
def toObject (v : Val) : Action Val :=
  match v with
  | .object r => pure (.object r)
  | .undefined => raiseNoObject
  | .null => raiseNoObject
  | .string s =>
    newObject (.boxed v) Place.stringPrototype
      ((s.zipIdx.map fun (u, i) => (indexKey i, ⟨.data (.string [u]) false, true, false⟩)) ++
        [(key "length", .fixed (.ofNat s.length))])
  | v => newObject (.boxed v) ((prototypeOf? v).getD Place.objectPrototype) []

/-- The names of the listed properties. -/
def objectKeys (v : Val) : Action Val := do
  let o ← toObject v
  match o with
  | .object r => do
    let names ← Action.read fun h => (h.object r).listedNames
    newArray (names.map .string)
  | _ => newArray []

/-- A property that can no longer change. -/
def Property.frozen (p : Property) : Property :=
  match p.slot with
  | .data v _ => ⟨.data v false, p.enumerable, false⟩
  | .accessor g s => ⟨.accessor g s, p.enumerable, false⟩

/-- Makes an object and its properties unchangeable. -/
def objectFreeze (v : Val) : Action Val :=
  match v with
  | .object r => do
    Action.change fun h => h.modify r fun o =>
      { o.mapProperties Property.frozen with extensible := false }
    pure v
  | v => pure v

/-! ## Defining properties -/

/-- What a description says about a property. -/
structure Description where
  value : Option Val
  writable : Option Bool
  getter : Option Val
  setter : Option Val
  enumerable : Option Bool
  configurable : Option Bool

def described (d : Val) (name : String) : Action (Option Val) :=
  match d with
  | .object r => do
    let found ← Action.read fun h => (h.findProperty? r (key name)).isSome
    if found then do
      let v ← getProperty ev d (key name)
      pure (some v)
    else pure none
  | _ => pure none

/-- Reads a getter or a setter from a description.  An error on the way is
covered by the complaint that there is no function. -/
def describedFunction (d : Val) (name complaint : String) : Action (Option Val) := do
  let f ← (described ev d name).recover fun _ => raiseError .type (text complaint)
  let bad ← Action.read fun h =>
    match f with
    | none => false
    | some .undefined => false
    | some f => !h.isCallable f
  if bad then raiseError .type (text complaint) else pure f

/-- Reads the description of a property. -/
def readDescription (d : Val) : Action Description :=
  match d with
  | .object _ => do
    let enumerable ← described ev d "enumerable"
    let configurable ← described ev d "configurable"
    let value ← described ev d "value"
    let writable ← described ev d "writable"
    let getter ← describedFunction ev d "get" "Getter must be a function"
    let setter ← describedFunction ev d "set" "Setter must be a function"
    if (getter.isSome || setter.isSome) && (value.isSome || writable.isSome) then
      raiseError .type (text ("Invalid property descriptor. Cannot both specify accessors and a " ++
        "value or writable attribute"))
    else
      pure ⟨value, writable.map Val.truthy, getter, setter, enumerable.map Val.truthy,
        configurable.map Val.truthy⟩
  | _ => raiseError .type (text "Property description must be an object")

namespace Description

/-- What a new property holds. -/
def slot (d : Description) : Slot :=
  if d.getter.isSome || d.setter.isSome then
    .accessor (d.getter.getD .undefined) (d.setter.getD .undefined)
  else .data (d.value.getD .undefined) (d.writable.getD false)

/-- What a property holds after it is redefined. -/
def merge (d : Description) (s : Slot) : Slot :=
  match s with
  | .data v w =>
    if d.getter.isSome || d.setter.isSome then d.slot
    else .data (d.value.getD v) (d.writable.getD w)
  | .accessor g s =>
    if d.value.isSome || d.writable.isSome then d.slot
    else .accessor (d.getter.getD g) (d.setter.getD s)

/-- Whether a property that is not configurable can be redefined this way. -/
def allowedOn (d : Description) (p : Property) : Bool :=
  let sameFlags := d.configurable != some true && d.enumerable.all (· == p.enumerable)
  let sameSlot :=
    match p.slot with
    | .data v w =>
      d.getter.isNone && d.setter.isNone &&
        (w || (d.writable != some true && d.value.all fun x => x.sameValue v))
    | .accessor g s =>
      d.value.isNone && d.writable.isNone && d.getter.all (· == g) && d.setter.all (· == s)
  sameFlags && sameSlot

end Description

def raiseNotConfigurable {α : Type} : Action α :=
  raiseError .type (text "property is not configurable")

/-- Defines the length of an array, which is always there.  It can stop being
writable even if elements stay in the way of its new value. -/
def defineLength (r : ObjectRef) (p : Property) (d : Description) : Action Unit := do
  let n ←
    match d.value with
    | some v => do
      let n ← toArrayLength ev v
      pure (some n)
    | none => pure none
  if Description.allowedOn { d with value := none } p then do
    let o ←
      match n with
      | some n => (assignLength ev r (.ofNat n)).outcome
      | none => pure (.returned ())
    if d.writable = some false then
      Action.change fun h => h.modify r fun o =>
        o.put (key "length") ⟨.data (.ofNat o.arrayLength) false, false, false⟩
    else pure ()
    Action.ofOutcome o
  else raiseNotConfigurable

/-- Defines a property that is not there yet. -/
def defineNew (r : ObjectRef) (k : Key) (d : Description) : Action Unit := do
  let behindEnd ← Action.read fun h =>
    let o := h.object r
    o.isArray && !o.lengthIsWritable && k.index?.any fun i => o.arrayLength ≤ i
  let extensible ← Action.read fun h => (h.object r).extensible
  if behindEnd then raiseError .type (text "'length' is read-only")
  else if !extensible then raiseError .type (text "object is not extensible")
  else
    Action.change fun h => h.modify r fun o =>
      o.define k ⟨d.slot, d.enumerable.getD false, d.configurable.getD false⟩

/-- Defines a property of an object. -/
def objectDefineProperty (v k d : Val) : Action Val :=
  match v with
  | .object r => do
    let k ← toKey ev k
    let d ← readDescription ev d
    let found ← Action.read fun h => (h.object r).own? k
    let isArray ← Action.read fun h => (h.object r).isArray
    match found with
    | none => do
      defineNew r k d
      pure v
    | some p =>
      if isArray && k == key "length" then do
        defineLength ev r p d
        pure v
      else if p.configurable || d.allowedOn p then do
        Action.change fun h => h.modify r fun o =>
          o.define k ⟨d.merge p.slot, d.enumerable.getD p.enumerable,
            d.configurable.getD p.configurable⟩
        pure v
      else raiseNotConfigurable
  | _ => raiseError .type (text "not an object")

/-! ## Prototypes -/

/-- The prototype of a value; `missing` decides about null and undefined. -/
def prototypeValue (v : Val) (missing : Action Val) : Action Val :=
  match v with
  | .object r => Action.read fun h =>
    match (h.object r).prototype with
    | some p => .object p
    | none => .null
  | v =>
    match prototypeOf? v with
    | some p => pure (.object p)
    | none => missing

/-- Changes the prototype of an object; a prototype never inherits from itself, and
the one that all others lead to inherits from nothing. -/
def setPrototype (r : ObjectRef) (p : Option ObjectRef) : Action Unit := do
  let o ← Action.read fun h => h.object r
  let circular ← Action.read fun h => p.any fun q => q == r || h.inherits q r
  if o.prototype = p then pure ()
  else if r = Place.objectPrototype then
    raiseError .type (text ("'Immutable prototype object 'Object.prototype' cannot have their " ++
      "prototype set'"))
  else if !o.extensible then raiseError .type (text "object is not extensible")
  else if circular then raiseError .type (text "circular prototype chain")
  else Action.change fun h => h.modify r fun o => { o with prototype := p }

/-- The prototype that a value stands for: an object, null, or nothing. -/
def prototypeArgument? : Val → Option (Option ObjectRef)
  | .object r => some (some r)
  | .null => some none
  | _ => none

/-- Writes the prototype the way a property is written. -/
def assignPrototype (target v : Val) : Action Val :=
  match target, prototypeArgument? v with
  | .undefined, _ => raiseError .type (text "not an object")
  | .null, _ => raiseError .type (text "not an object")
  | .object r, some p => do
    setPrototype r p
    pure .undefined
  | _, _ => pure .undefined

def objectCreate (p : Val) : Action Val :=
  match prototypeArgument? p with
  | some p =>
    Action.update fun h =>
      let (r, h) := h.allocate (.ofKind .plain p)
      (.object r, h)
  | none => raiseError .type (text "not a prototype")

def objectHasOwnProperty (receiver k : Val) : Action Val := do
  let k ← toKey ev k
  let o ← toObject receiver
  match o with
  | .object r => Action.read fun h => .bool ((h.object r).own? k).isSome
  | _ => pure (.bool false)

/-- The word for what an object is, if it does not carry one itself. -/
def ObjectKind.word : ObjectKind → String
  | .array => "Array"
  | .arguments => "Arguments"
  | .error => "Error"
  | .function _ => "Function"
  | .boxed (.string _) => "String"
  | .boxed (.bool _) => "Boolean"
  | .boxed (.int _) => "Number"
  | .boxed (.float _) => "Number"
  | .pattern _ => "RegExp"
  | _ => "Object"

/-- The text of a value that says only what it is. -/
def objectToString (receiver : Val) : Action Val :=
  match receiver with
  | .undefined => pure (.string (text "[object Undefined]"))
  | .null => pure (.string (text "[object Null]"))
  | receiver => do
    let o ← toObject receiver
    let word ← Action.read fun h =>
      match o with
      | .object r => text (h.object r).kind.word
      | _ => text "Object"
    let tag ← getProperty ev o (.symbol Place.tagSymbol)
    let word :=
      match tag with
      | .string s => s
      | _ => word
    pure (.string (text "[object " ++ word ++ text "]"))

/-! ## Functions -/

/-- The values of an array-like object. -/
def listValues (v : Val) : Action (List Val) :=
  match v with
  | .undefined => pure []
  | .null => pure []
  | .object _ => do
    let n ← getProperty ev v (key "length")
    let n ← toDouble ev n
    let n := if n.isFinite then n.truncate.toNat else 0
    if 65535 < n then
      raiseError .range (text "too many arguments in function call (only 65535 allowed)")
    else Action.each (fun i => getProperty ev v (indexKey i)) (List.range n)
  | _ => raiseError .type (text "not an object")

/-- A function with its receiver and first arguments fixed. -/
def bindFunction (f : Val) (vs : List Val) : Action Val := do
  let callable ← Action.read fun h => h.callable? f
  match callable, f with
  | some c, .object r => do
    let n ← getProperty ev f (key "length")
    let name ← getProperty ev f (key "name")
    let length : Int :=
      match n.number? with
      | some x => if x.isFinite then x.truncate else 0
      | none => 0
    let shown : Units :=
      match name with
      | .string s => s
      | _ => []
    newObject (.function (.bound r (argument vs 0) vs.tail c.constructs)) Place.functionPrototype
      (functionProperties (text "bound " ++ shown) (length - vs.tail.length).toNat)
  | _, _ => raiseError .type (text "not a function")

/-- The text of a function: what it was read from, or its name. -/
def functionToString (f : Val) : Action Val := do
  let callable ← Action.read fun h => h.callable? f
  match callable with
  | some (.closure lambda _ _) => pure (.string lambda.source)
  | some _ => do
    let name ← getProperty ev f (key "name")
    let name ← if name = .undefined then pure [] else toUnits ev name
    pure (.string (text "function " ++ name ++ text "() \x7b\n    [native code]\n\x7d"))
  | none => raiseError .type (text "not a function")

end ScriptHost.Script
