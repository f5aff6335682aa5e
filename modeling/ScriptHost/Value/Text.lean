import ScriptHost.Number.Layout
import ScriptHost.Text.DebugTree
import ScriptHost.Value.Basic

/-!
# Texts of host values

`Value.display` is what a value prints as; numbers and strings show themselves,
functions and objects only their kind.  `Value.debugTree` shows all there is,
down to the exports of an object.
-/

namespace ScriptHost

variable {φ : Type}

/-- What a value prints as. -/
def Value.display : Value φ → String
  | .null => "null"
  | .undefined => "undefined"
  | .number _ x => hostLayout.render x
  | .string _ s => s
  | .function _ _ => "[function]"
  | .object _ _ => "[object]"

mutual
/-- All that there is to see of a value. -/
def Value.debugTree : Value φ → DebugTree
  | .null => .leaf "Null"
  | .undefined => .leaf "Undefined"
  | .number _ x => .tuple "Number" [.leaf (debugLayout.render x)]
  | .string _ s => .tuple "String" [.leaf (Text.quote s)]
  | .function _ f => .tuple "Function" [.leaf (Text.quote f.backend)]
  | .object _ n => .tuple "Object" [.map n.debugEntries]

/-- The exports of a namespace by name. -/
def Namespace.debugEntries : Namespace φ → List (String × DebugTree)
  | .empty => []
  | .entry name item rest => (name, item.debugTree) :: rest.debugEntries

def Export.debugTree : Export φ → DebugTree
  | .value v => .tuple "Value" [v.debugTree]
  | .callback _ => .leaf "Function"
  | .nested n => .tuple "Namespace" [.map n.debugEntries]
end

/-- All that there is to see of a namespace. -/
def Namespace.debugTree (n : Namespace φ) : DebugTree := .map n.debugEntries

end ScriptHost
