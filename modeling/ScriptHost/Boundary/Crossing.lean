import ScriptHost.Script.Machine
import ScriptHost.World.Basic

/-!
# Crossing the boundary

A script runs in the heap of one realm, the context.  Driving its run keeps that
heap in the world: before every host call the heap is put back, and afterwards
the run goes on with whatever heap the context then has.  How host calls are
answered is the dispatcher's business.
-/

namespace ScriptHost

/-- Answers the host calls of scripts that run in a context. -/
abbrev Dispatcher (φ σ : Type) :=
  RealmRef → Script.HostCall → World φ σ → World φ σ × Script.Reply

/-- How values cross between the host and a realm. -/
structure Crossing (φ σ : Type) where
  dispatch : Dispatcher φ σ
  /-- The realm whose heap is used. -/
  context : RealmRef
  /-- The realm that values belong to and callbacks are registered in. -/
  realm : RealmRef
  /-- The stack that scripts run on. -/
  stack : Script.Stack

variable [Machine] {φ σ α : Type}

/-- Runs a script to its end in a context. -/
def drive (d : Dispatcher φ σ) (context : RealmRef) :
    Script.Run α → World φ σ → World φ σ × Script.Outcome α
  | .finished h o, w => (w.setHeap context h, o)
  | .host h call resume, w =>
    let (w, reply) := d context call (w.setHeap context h)
    drive d context (resume (w.heap context) reply) w

namespace Crossing

/-- Runs code in the context. -/
def run (c : Crossing φ σ) (x : Script.Action α) (w : World φ σ) :
    World φ σ × Script.Outcome α :=
  drive c.dispatch c.context (x (w.heap c.context)) w

/-- The evaluator for code that the host starts. -/
def evaluator (c : Crossing φ σ) : Script.Evaluator := Machine.evaluator c.stack

end Crossing

/-! ## Conversions that fail -/

/-- A value could not cross because a script threw. -/
def Failure.scriptThrew : Failure :=
  .script (.conversion "Exception generated by QuickJS")

/-- A value is no string. -/
def Failure.notString (type : String) : Failure :=
  .script (.conversion ("Error converting from js '" ++ type ++ "' into type 'string'"))

/-- A value is no function. -/
def Failure.notFunction (type : String) : Failure :=
  .script (.conversion ("Error converting from js '" ++ type ++ "' into type 'function'"))

/-- A string is no text from some byte on. -/
def Failure.notText (bytes : Nat) : Failure :=
  .script (.conversion
    ("Conversion from string failed: invalid utf-8 sequence of 1 bytes from index " ++ bytes.repr))

/-- A function was kept for a realm with the same identifier but another engine. -/
def Failure.otherEngine : Failure :=
  .script (.conversion "Restoring Persistent in an unrelated runtime")

/-- The name of a script value's type in a message. -/
def conversionTypeName (h : Script.Heap) (v : Script.Val) : String :=
  match v with
  | .undefined => "undefined"
  | .null => "null"
  | .bool _ => "bool"
  | .int _ => "int"
  | .float _ => "float"
  | .string _ => "string"
  | .symbol _ => "symbol"
  | .bigint _ => "big_int"
  | .object r =>
    match (h.object r).kind with
    | .array => "array"
    | .error => "exception"
    | .promise => "promise"
    | .function c => if c.constructs then "constructor" else "function"
    | _ => "object"

end ScriptHost
