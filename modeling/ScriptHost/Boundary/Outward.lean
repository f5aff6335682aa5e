import ScriptHost.Boundary.Crossing

/-!
# From scripts to the host

Numbers, strings, functions and undefined come out as what they are, everything
else as null.

A string that is well formed is read as it is.  Any other string is made well formed by the
realm itself: a function is read from a source and called on the string.  It calls the
string's method `replace` with a pattern for the surrogates that have no other half, and so
runs whatever the realm has for the method and for what that calls.
-/

namespace ScriptHost

variable [Machine] {φ σ : Type}

/-- The source of the function that makes a string well formed: each surrogate that is
unpaired becomes one replacement character. -/
def wellFormedSource : String :=
  "(function (s) \x7b\n    return s.replace(" ++
    "/[\\uD800-\\uDBFF](?![\\uDC00-\\uDFFF])|(?<![\\uD800-\\uDBFF])[\\uDC00-\\uDFFF]/g" ++
    ", '\\uFFFD');\n\x7d)"

/-- The text of a string that was made well formed. -/
def textOfReplaced (h : Script.Heap) (v : Script.Val) : Except Failure String :=
  match v with
  | .string s =>
    match s.toString? with
    | some t => .ok t
    | none => .error (.notText s.validUpTo)
  | v => .error (.notString (conversionTypeName h v))

/-- Makes a string well formed and reads it. -/
def makeWellFormed (stack : Script.Stack) (s : Units) : Script.Action (Except Failure String) := do
  let f ← Machine.runSource stack wellFormedSource
  let callable ← Script.Action.read fun h => h.isCallable f
  if callable then do
    let v ← (Machine.evaluator stack).call f .undefined [.string s]
    Script.Action.read fun h => textOfReplaced h v
  else Script.Action.read fun h => .error (.notFunction (conversionTypeName h f))

namespace Crossing

/-- The text of a script string. -/
def text (c : Crossing φ σ) (s : Units) (w : World φ σ) : World φ σ × Except Failure String :=
  match s.toString? with
  | some t => (w, .ok t)
  | none =>
    match c.run (makeWellFormed c.stack s) w with
    | (w, .returned t) => (w, t)
    | (w, _) => (w, .error .scriptThrew)

/-- The host value of a script value. -/
def toValue (c : Crossing φ σ) (v : Script.Val) (w : World φ σ) :
    World φ σ × Except Failure (Value φ) :=
  match v with
  | .int n =>
    let (w, v) := w.makeNumber (Double.ofInt n.toInt)
    (w, .ok v)
  | .float x =>
    let (w, v) := w.makeNumber x
    (w, .ok v)
  | .string s =>
    match c.text s w with
    | (w, .ok t) =>
      let (w, v) := w.makeString t
      (w, .ok v)
    | (w, .error e) => (w, .error e)
  | .undefined => (w, .ok .undefined)
  | .object r =>
    if (w.heap c.context).isCallable (.object r) then
      let (w, v) := w.makeFunction (.captured c.realm r)
      (w, .ok v)
    else (w, .ok .null)
  | _ => (w, .ok .null)

/-- The host values of a list of script values, up to the first that has none. -/
def toValues (c : Crossing φ σ) : List Script.Val → World φ σ →
    World φ σ × Except Failure (List (Value φ))
  | [], w => (w, .ok [])
  | v :: vs, w =>
    match c.toValue v w with
    | (w, .error e) => (w, .error e)
    | (w, .ok x) =>
      match c.toValues vs w with
      | (w, .error e) => (w, .error e)
      | (w, .ok xs) => (w, .ok (x :: xs))

end Crossing

end ScriptHost
