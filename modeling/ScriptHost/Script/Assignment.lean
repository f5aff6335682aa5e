import ScriptHost.Script.Convert

/-!
# Writing and removing properties

Writing a property follows the prototypes, since a setter or a read-only property
found there decides what happens, and otherwise makes an own property.  A write
that has no effect is an error.

The length of an array is one more than its last index at least: an element
behind the end moves the length, and a smaller length removes elements from the
end until one refuses to go.
-/

namespace ScriptHost.Script

variable (ev : Evaluator)

/-! ## Arrays -/

/-- The length of an array. -/
def Object.arrayLength (o : Object) : Nat :=
  match o.own? (key "length") with
  | some ⟨.data (.int n) _, _, _⟩ => n.toInt.toNat
  | some ⟨.data (.float x) _, _, _⟩ => (x.toInt?.getD 0).toNat
  | _ => 0

/-- Whether the length of an array can change. -/
def Object.lengthIsWritable (o : Object) : Bool :=
  match o.own? (key "length") with
  | some ⟨.data _ writable, _, _⟩ => writable
  | _ => true

/-- Gives an array a length, whatever its elements are. -/
def Object.withLength (o : Object) (n : Nat) : Object :=
  o.put (key "length") ⟨.data (.ofNat n) o.lengthIsWritable, false, false⟩

/-- Adds or replaces an own property; the length of an array follows. -/
def Object.define (o : Object) (k : Key) (p : Property) : Object :=
  if o.isArray then
    match k.index? with
    | some i => (if o.arrayLength ≤ i then o.withLength (i + 1) else o).put k p
    | none => o.put k p
  else o.put k p

/-- The smallest length, from `n` on, behind every element that cannot go. -/
def Object.leastLength (o : Object) (n : Nat) : Nat :=
  o.properties.foldl (fun least e =>
    match e.1.index? with
    | some i => if e.2.configurable then least else Nat.max least (i + 1)
    | none => least) n

/-- Cuts an array to a length, as far as its elements can go. -/
def Object.truncate (o : Object) (n : Nat) : Object :=
  let n := o.leastLength n
  { o with
    elements := o.elements.shrink n
    properties := o.properties.filter fun e =>
      match e.1.index? with
      | some i => i < n
      | none => true }.withLength n

/-- What stands against a new own property. -/
def Object.refusal? (o : Object) (k : Key) : Option String :=
  if !o.extensible then some "object is not extensible"
  else if o.isArray then
    match k.index? with
    | some i =>
      if o.arrayLength ≤ i && !o.lengthIsWritable then some "'length' is read-only" else none
    | none => none
  else none

def raiseBadLength {α : Type} : Action α :=
  raiseError .range (text "invalid array length")

/-- The length of an array that a number says. -/
def lengthOfDouble (x : Double) : Action Nat :=
  match x.toInt? with
  | some n => if 0 ≤ n ∧ n < 4294967296 then pure n.toNat else raiseBadLength
  | none => raiseBadLength

/-- A number reduced to thirty-two bits. -/
private def wrapped (x : Double) : Nat :=
  if x.isFinite then (x.truncate % 4294967296).toNat else 0

/-- The length of an array that a value says.  What is neither a number, a truth
value nor null is converted twice, and both numbers have to agree. -/
def toArrayLength (v : Val) : Action Nat :=
  match v with
  | .null => pure 0
  | .bool b => pure (if b then 1 else 0)
  | .int n => lengthOfDouble (Double.ofInt n.toInt)
  | .float x => lengthOfDouble x
  | v => do
    let x ← toDouble ev v
    let y ← toDouble ev v
    let n ← lengthOfDouble y
    if wrapped x = n then pure n else raiseBadLength

/-- Gives an array the length that a value says. -/
def assignLength (r : ObjectRef) (v : Val) : Action Unit := do
  let n ← toArrayLength ev v
  let writable ← Action.read fun h => (h.object r).lengthIsWritable
  if !writable then raiseError .type (text "'length' is read-only")
  else do
    let least ← Action.read fun h => (h.object r).leastLength n
    Action.change fun h => h.modify r fun o => o.truncate n
    if n < least then raiseError .type (text "not configurable") else pure ()

/-! ## Writing -/

/-- Calls the setter of a property. -/
def callSetter (setter receiver v : Val) : Action Unit :=
  match setter with
  | .undefined => raiseError .type (text "no setter for property")
  | setter => do
    let _ ← ev.call setter receiver [v]
    pure ()

/-- What an element of a row takes, in bytes. -/
def elementBytes : Nat := 16

/-- Makes place for one more property of an object.  A row of elements moves when it grows;
other properties are taken to need nothing. -/
def reserveProperty (r : ObjectRef) : Action Unit := do
  let elements ← Action.read fun h => (h.object r).elements.size
  if elements = 0 then pure () else reserve ev (elementBytes * (elements + 1))

/-- Makes a new own property. -/
def addProperty (r : ObjectRef) (k : Key) (v : Val) : Action Unit := do
  let refusal ← Action.read fun h => (h.object r).refusal? k
  match refusal with
  | some why => raiseError .type (text why)
  | none => do
    reserveProperty ev r
    Action.change fun h => h.modify r fun o => o.define k (.plain v)

/-- Changes the value of an own property. -/
def storeProperty (r : ObjectRef) (k : Key) (enumerable configurable : Bool) (v : Val) :
    Action Unit :=
  Action.change fun h => h.modify r fun o => o.put k ⟨.data v true, enumerable, configurable⟩

/-- Writes a property of a value; `add` makes an own property where there is
nothing to write to. -/
def setPropertyOr (add : ObjectRef → Action Unit) (target : Val) (k : Key) (v : Val) :
    Action Unit :=
  match prototypeOf? target with
  | none =>
    raiseAboutKey .type "cannot set property '" k
      (if target = .null then "' of null" else "' of undefined")
  | some r => do
    let found ← Action.read fun h => h.findProperty? r k
    let ownLength ← Action.read fun h =>
      target == .object r && k == key "length" && (h.object r).isArray
    match found with
    | some (owner, ⟨.data _ writable, e, c⟩) =>
      if ownLength then assignLength ev r v
      else if !writable then raiseAboutKey .type "'" k "' is read-only"
      else if target != .object r then raiseError .type (text "not an object")
      else if owner = r then storeProperty r k e c v
      else add r
    | some (_, ⟨.accessor _ setter, _, _⟩) => callSetter ev setter target v
    | none =>
      if target != .object r then raiseError .type (text "not an object") else add r

/-- Writes a property of a value. -/
def setProperty (target : Val) (k : Key) (v : Val) : Action Unit :=
  setPropertyOr ev (fun r => addProperty ev r k v) target k v

/-! ## Removing -/

/-- Throws the error about a value that is no object and cannot be made one. -/
def raiseNoObject {α : Type} : Action α :=
  raiseError .type (text "Cannot convert undefined or null to object")

def raiseUndeletable {α : Type} : Action α :=
  raiseError .type (text "could not delete property")

/-- Removes an own property. -/
def removeProperty (target : Val) (k : Key) : Action Bool :=
  match target with
  | .undefined => raiseNoObject
  | .null => raiseNoObject
  | .string s => if (stringProperty? s k).isSome then raiseUndeletable else pure true
  | .object r => do
    let found ← Action.read fun h => (h.object r).own? k
    match found with
    | none => pure true
    | some p =>
      if p.configurable then do
        Action.change fun h => h.modify r fun o => o.erase k
        pure true
      else raiseUndeletable
  | _ => pure true

end ScriptHost.Script
