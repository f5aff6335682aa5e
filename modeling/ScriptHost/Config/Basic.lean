import ScriptHost.Text.DebugTree

/-!
# Engine configurations

A configuration has two sections: limits of the isolate that all realms of a
thread may share, and limits of the runtime that each realm owns.  Every setting
has a default, so a configuration mentions only what it changes.

`json` is the one compact spelling of a configuration: every field is written,
in the order of the declarations, and an absent limit is `null`.
-/

namespace ScriptHost

/-- Heap limits of a shared isolate, in bytes. -/
structure IsolateLimits where
  initialHeap : UInt64 := 0
  maxHeap : Option UInt64 := none
  deriving DecidableEq, Repr, Inhabited

/-- Limits of the runtime of one realm, in bytes. -/
structure RuntimeLimits where
  memory : Option UInt64 := none
  stack : Option UInt64 := none
  collector : Option UInt64 := none
  deriving DecidableEq, Repr, Inhabited

/-- The settings of an engine. -/
structure EngineConfig where
  isolate : IsolateLimits := {}
  runtime : RuntimeLimits := {}
  deriving DecidableEq, Repr, Inhabited

namespace EngineConfig

/-- The settings that a configuration without content has. -/
def standard : EngineConfig := {}

/-! ## Spellings -/

/-- A limit as a value of a JSON document. -/
def limitJson : Option UInt64 → String
  | none => "null"
  | some n => n.toNat.repr

/-- A JSON object from its keys and the texts of its values. -/
def objectJson (members : List (String × String)) : String :=
  "\x7b" ++ ",".intercalate (members.map fun m => "\"" ++ m.1 ++ "\":" ++ m.2) ++ "\x7d"

/-- The compact JSON document of a configuration. -/
def json (c : EngineConfig) : String :=
  objectJson
    [("v8", objectJson
        [("initial_heap_bytes", c.isolate.initialHeap.toNat.repr),
          ("max_heap_bytes", limitJson c.isolate.maxHeap)]),
      ("quickjs", objectJson
        [("memory_limit", limitJson c.runtime.memory),
          ("max_stack_size", limitJson c.runtime.stack),
          ("gc_threshold", limitJson c.runtime.collector)])]

/-- A limit in a debug text. -/
def limitTree : Option UInt64 → DebugTree
  | none => .leaf "None"
  | some n => .tuple "Some" [.leaf n.toNat.repr]

/-- The debug text of a configuration. -/
def debugTree (c : EngineConfig) : DebugTree :=
  .record "EngineConfig"
    [("v8", .record "V8Config"
        [("initial_heap_bytes", .leaf c.isolate.initialHeap.toNat.repr),
          ("max_heap_bytes", limitTree c.isolate.maxHeap)] false),
      ("quickjs", .record "QuickJsConfig"
        [("memory_limit", limitTree c.runtime.memory),
          ("max_stack_size", limitTree c.runtime.stack),
          ("gc_threshold", limitTree c.runtime.collector)] false)] false

end EngineConfig

end ScriptHost
