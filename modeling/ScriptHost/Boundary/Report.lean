import ScriptHost.Boundary.Crossing

/-!
# Reports of uncaught exceptions

What a script throws and nobody catches is reported to the host as a text.  An
error object is reported by its name, its message and its stack trace, which are
read like any other properties; an object that merely inherits from an error is
not an error.  Any other value is shown as it is.

The name counts only if it is a string, and it alone decides whether the source
is held to be rejected.  Message and stack are turned into strings, unless they
are null or undefined.
-/

namespace ScriptHost

open Script (Val Heap Evaluator)

/-! ## Values that are shown as they are -/

private def sameText (s : Units) : String :=
  match s.toString? with
  | some t => "Ok(" ++ Text.quote t ++ ")"
  | none =>
    "Err(Utf8(Utf8Error \x7b valid_up_to: " ++ s.validUpTo.repr ++ ", error_len: Some(1) \x7d))"

def shownObject (h : Heap) (v : Val) : String :=
  match conversionTypeName h v with
  | "array" => "Array(0x)"
  | "constructor" => "Constructor(0x)"
  | "function" => "Function(0x)"
  | "promise" => "Promise(0x)"
  | "exception" => "Exception(0x)"
  | _ => "Object(0x)"

/-- How a thrown value is shown that is no error. -/
def shownValue (h : Heap) (v : Val) : String :=
  match v with
  | .undefined => "Undefined\"undefined\""
  | .null => "Null\"null\""
  | .bool b => "Bool(" ++ (if b then "true" else "false") ++ ")"
  | .int n => "Int(" ++ toString n.toInt ++ ")"
  | .float x => "Float(" ++ debugLayout.render x ++ ")"
  | .string s => "String(" ++ sameText s ++ ")"
  | .symbol _ => "Symbol(0x)"
  | .bigint _ => "BigInt(0x)"
  | .object _ => shownObject h v

/-! ## Errors -/

/-- What a report says. -/
inductive Report where
  /-- A value that is no error. -/
  | value (shown : String)
  | error (name message : String) (stack : Option String)

/-- Reads a property, unless reading it throws. -/
def tryProperty (ev : Evaluator) (v : Val) (name : String) :
    Script.Action (Option Val) := do
  let o ← (Script.getProperty ev v (Script.key name)).outcome
  match o with
  | .returned x => pure (some x)
  | _ => pure none

def tryText (ev : Evaluator) (v : Val) : Script.Action (Option String) := do
  let o ← (Script.toUnits ev v).outcome
  match o with
  | .returned s => pure s.toString?
  | _ => pure none

/-- The text of a property, unless it is absent or has none. -/
def tryTextOf (ev : Evaluator) (v : Val) (name : String) :
    Script.Action (Option String) := do
  let x ← tryProperty ev v name
  match x with
  | none => pure none
  | some .null => pure none
  | some .undefined => pure none
  | some x => tryText ev x

/-- The name that an error has if it has none of its own. -/
def defaultErrorName : String := "Error"

def nameOf (x : Option Val) : String :=
  match x with
  | some (.string s) => s.toString?.getD defaultErrorName
  | _ => defaultErrorName

private def isErrorObject (h : Heap) : Val → Bool
  | .object r => (h.object r).isError
  | _ => false

/-- The report of a thrown value. -/
def reportOf (ev : Evaluator) (v : Val) : Script.Action Report := do
  let isError ← Script.Action.read fun h => isErrorObject h v
  if isError then do
    let name ← tryProperty ev v "name"
    let message ← tryTextOf ev v "message"
    let stack ← tryTextOf ev v "stack"
    pure (.error (nameOf name) (message.getD "") stack)
  else do
    let shown ← Script.Action.read fun h => shownValue h v
    pure (.value shown)

/-- The line that ends the message of an error and starts its stack trace. -/
def stackHeading : String := "\nStacktrace:"

/-- The stack trace of a report. -/
def stackSection (stack : Option String) : String :=
  match stack with
  | some s => if s.isEmpty then " <missing information>" else "\n" ++ s
  | none => " <missing information>"

/-- The name of the errors that a rejected source raises. -/
def rejectedName : String := Script.ErrorType.parse.name

/-- The failure that a report describes. -/
def Report.failure : Report → Failure
  | .value shown => .script (.exception ("Exception generated by quickjs: " ++ shown ++ "\n"))
  | .error name message stack =>
    let text := name ++ ": " ++ message ++ stackHeading ++ stackSection stack
    .script (if name = rejectedName then .compile text else .exception text)

variable [Machine] {φ σ : Type}

/-- Reports a thrown value. -/
def Crossing.report (c : Crossing φ σ) (v : Val) (w : World φ σ) : World φ σ × Failure :=
  match c.run (reportOf c.evaluator v) w with
  | (w, .returned r) => (w, r.failure)
  | (w, _) => (w, .scriptThrew)

end ScriptHost
