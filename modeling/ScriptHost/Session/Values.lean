import ScriptHost.Engine.Dispatch
import ScriptHost.Script.Interpreter
import ScriptHost.Session.Behaviour

/-!
# Values one by one

Everything that can be asked of a host value, outside of any realm.
-/

namespace ScriptHost.Session

/-- All that there is to know about a value. -/
structure ValueView where
  type : ValueType
  number : Double
  string : String
  text : Option String
  display : String
  debug : String
  pretty : String
  function : Option String
  names : Option (List String)
  call : Except Failure Appearance

/-- Calls a value outside of any realm. -/
private def callOutside (v : Value Callback) (arguments : List (Value Callback)) :
    Except Failure Appearance :=
  match v.function? with
  | none => .ok .undefined
  | some f =>
    match (host.call f arguments (World.start {})).2 with
    | .ok v => .ok (appearance v)
    | .error e => .error e

/-- Looks at a value and calls it. -/
def viewValue (arguments : List (Value Callback)) (v : Value Callback) : ValueView :=
  { type := v.type
    number := v.numberValue
    string := v.stringValue
    text := v.string?
    display := v.display
    debug := v.debugTree.compact
    pretty := v.debugTree.pretty
    function := v.function?.map (·.backend)
    names := v.namespace?.map (·.names)
    call := callOutside v arguments }

/-- Makes values and looks at each of them. -/
def valueViews (values arguments : List ValueSpec) : List ValueView :=
  let (vs, making) := makeEach values (0, {})
  let (args, _) := makeEach arguments making
  vs.map (viewValue args)

end ScriptHost.Session
