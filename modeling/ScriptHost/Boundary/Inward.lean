import ScriptHost.Boundary.Crossing

/-!
# From the host to scripts

Null, undefined, numbers and strings go in as what they are; a number is a small
integer if it is one.  A function goes back into the realm that it was captured
in and becomes undefined everywhere else, which is recorded.  An object becomes a
fresh plain object, on which its exports are assigned one after the other: a
value as itself, a callback as a new function that is registered in the realm,
a nested namespace as another fresh object.

Strings, objects and functions are made in the memory of the engine, which may not
grant what they take.  Assignment can run code of the realm, and can fail too; then
nothing more is assigned.
-/

namespace ScriptHost

variable [Machine] {φ σ : Type}

namespace Crossing

/-- Assigns a property in the context. -/
def assign (c : Crossing φ σ) (target : ObjectRef) (name : String) (v : Script.Val)
    (w : World φ σ) : World φ σ × Except Failure Unit :=
  let (w, o) :=
    c.run (Script.setProperty c.evaluator (.object target) (Script.key name) v) w
  match o with
  | .returned _ => (w, .ok ())
  | _ => (w, .error .scriptThrew)

/-- Whether the engine has so many bytes for something that is made in the context. -/
def grants (c : Crossing φ σ) (w : World φ σ) (bytes : Nat) : Bool :=
  c.evaluator.grants (w.heap c.context) bytes

/-- What a new string takes, in bytes. -/
def stringBytes (s : String) : Nat := Script.stringBytes (Units.ofString s)

/-- What a new object takes, in bytes. -/
def objectBytes : Nat := 64

/-- Makes an object in the context, unless the engine has no memory for it. -/
def allocate (c : Crossing φ σ) (bytes : Nat) (o : Script.Object) (w : World φ σ) :
    World φ σ × Except Failure ObjectRef :=
  if c.grants w bytes then
    let (r, h) := (w.heap c.context).allocate o
    (w.setHeap c.context h, .ok r)
  else (w, .error .scriptThrew)

/-- Makes an object without properties. -/
def allocatePlain (c : Crossing φ σ) (w : World φ σ) : World φ σ × Except Failure ObjectRef :=
  c.allocate objectBytes (.ofKind .plain (some Script.Place.objectPrototype)) w

/-- The script side of a callback. -/
def nativeObject (name : String) (k : NativeKey) : Script.Object :=
  .make (.function (.native k)) (some Script.Place.functionPrototype)
    (Script.functionProperties (Script.text name) 0)

/-- Registers a callback and makes the function that leads to it. -/
def makeNative (c : Crossing φ σ) (name : String) (f : φ) (w : World φ σ) :
    World φ σ × Except Failure ObjectRef :=
  let (k, w) := w.register c.realm f
  c.allocate (objectBytes + stringBytes name) (nativeObject name k) w

/-- Puts a function back into the realm that it was captured in. -/
def restore (c : Crossing φ σ) (f : FunctionRef) (w : World φ σ) :
    World φ σ × Except Failure Script.Val :=
  match f with
  | .foreign _ => (w.record .alien, .ok .undefined)
  | .captured origin object =>
    if w.idOf origin = w.idOf c.realm then
      (w, if origin = c.context then .ok (.object object) else .error .otherEngine)
    else (w.record (.misplaced (w.idOf origin) (w.idOf c.realm)), .ok .undefined)

end Crossing

mutual
/-- The script value of a host value. -/
def Value.extract (c : Crossing φ σ) : Value φ → World φ σ →
    World φ σ × Except Failure Script.Val
  | .null, w => (w, .ok .null)
  | .undefined, w => (w, .ok .undefined)
  | .number _ x, w => (w, .ok (Script.Val.ofNumber x))
  | .string _ s, w =>
    if c.grants w (Crossing.stringBytes s) then (w, .ok (.string (Units.ofString s)))
    else (w, .error .scriptThrew)
  | .function _ f, w => c.restore f w
  | .object _ exports, w =>
    match c.allocatePlain w with
    | (w, .error e) => (w, .error e)
    | (w, .ok r) =>
      match exports.install c r w with
      | (w, .ok ()) => (w, .ok (.object r))
      | (w, .error e) => (w, .error e)

/-- Assigns the exports of a namespace to an object of the context. -/
def Namespace.install (c : Crossing φ σ) : Namespace φ → ObjectRef → World φ σ →
    World φ σ × Except Failure Unit
  | .empty, _, w => (w, .ok ())
  | .entry name item rest, target, w =>
    match item.realise c name w with
    | (w, .error e) => (w, .error e)
    | (w, .ok v) =>
      match c.assign target name v w with
      | (w, .error e) => (w, .error e)
      | (w, .ok ()) => rest.install c target w

/-- The script value of an export. -/
def Export.realise (c : Crossing φ σ) (name : String) : Export φ → World φ σ →
    World φ σ × Except Failure Script.Val
  | .value v, w => v.extract c w
  | .callback f, w =>
    match c.makeNative name f w with
    | (w, .ok r) => (w, .ok (.object r))
    | (w, .error e) => (w, .error e)
  | .nested exports, w =>
    match c.allocatePlain w with
    | (w, .error e) => (w, .error e)
    | (w, .ok r) =>
      match exports.install c r w with
      | (w, .ok ()) => (w, .ok (.object r))
      | (w, .error e) => (w, .error e)
end

/-- The script values of a list of host values, up to the first that has none. -/
def Crossing.extractAll (c : Crossing φ σ) : List (Value φ) → World φ σ →
    World φ σ × Except Failure (List Script.Val)
  | [], w => (w, .ok [])
  | v :: vs, w =>
    match v.extract c w with
    | (w, .error e) => (w, .error e)
    | (w, .ok x) =>
      match c.extractAll vs w with
      | (w, .error e) => (w, .error e)
      | (w, .ok xs) => (w, .ok (x :: xs))

end ScriptHost
