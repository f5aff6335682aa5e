import ScriptHost.Config.Reader
import ScriptHost.Files

/-!
# Failures

What can go wrong between a host and its scripts.  A failure says what happened;
its wording is in `ScriptFailure.message` and `Failure.message` alone, and
`debugTree` shows it with its parts.
-/

namespace ScriptHost

/-- A failure on the way into a script or out of it. -/
inductive ScriptFailure where
  /-- The source was rejected. -/
  | compile (text : String)
  /-- Something was thrown and nobody caught it. -/
  | exception (text : String)
  /-- A value could not cross the boundary. -/
  | conversion (text : String)
  /-- A realm could not be set up. -/
  | startup (text : String)
  /-- A realm cannot run scripts. -/
  | execution (text : String)
  /-- There is no scope for a nested call. -/
  | busy
  /-- A host function was called while its realm was not active. -/
  | unreachable (realm slot : UInt32)
  deriving DecidableEq, Repr

/-- A failure as the host sees it. -/
inductive Failure where
  | script (f : ScriptFailure)
  | config (text : String)
  deriving DecidableEq, Repr

def ScriptFailure.message : ScriptFailure → String
  | .compile text => "compile error: " ++ text
  | .exception text => "exception: " ++ text
  | .conversion text => "conversion error: " ++ text
  | .startup text => "initialize error: " ++ text
  | .execution text => "execution error: " ++ text
  | .busy => "engine is busy: no live scope available for reentrant call"
  | .unreachable realm slot =>
    "native function " ++ slot.toNat.repr ++ " of realm " ++ realm.toNat.repr ++
      " is not reachable from the active contexts"

def Failure.message : Failure → String
  | .script f => "js: " ++ f.message
  | .config text => "config error: " ++ text

/-- What a failure was caused by. -/
def Failure.cause? : Failure → Option String
  | .script f => some f.message
  | .config _ => none

def ScriptFailure.debugTree : ScriptFailure → DebugTree
  | .compile text => .tuple "Compile" [.leaf (Text.quote text)]
  | .exception text => .tuple "Exception" [.leaf (Text.quote text)]
  | .conversion text => .tuple "Conversion" [.leaf (Text.quote text)]
  | .startup text => .tuple "Initialize" [.leaf (Text.quote text)]
  | .execution text => .tuple "Execution" [.leaf (Text.quote text)]
  | .busy => .leaf "ContextBusy"
  | .unreachable realm slot =>
    .record "UnknownNativeFunction"
      [("realm", .leaf realm.toNat.repr), ("slot", .leaf slot.toNat.repr)] false

def Failure.debugTree : Failure → DebugTree
  | .script f => .tuple "JS" [f.debugTree]
  | .config text => .tuple "Config" [.leaf (Text.quote text)]

/-! ## Configurations that cannot be read -/

/-- The configuration that a document spells. -/
def EngineConfig.ofJson (text : String) : Except Failure EngineConfig :=
  match Config.readDocument text with
  | .ok c => .ok c
  | .error e => .error (.config e.message)

/-- The text of a file that could not be read. -/
def unreadable (path : String) (e : FileError) : String :=
  "cannot read " ++ path ++ ": " ++ e.message

/-- The configuration in the file at a path, with the files given by `read`. -/
def EngineConfig.ofFile (read : String → Except FileError String) (path : String) :
    Except Failure EngineConfig :=
  match read path with
  | .ok text => ofJson text
  | .error e => .error (.config (unreadable path e))

end ScriptHost
