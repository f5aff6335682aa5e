import ScriptHost.Failure

/-!
# Events

What happens between a host and its scripts leaves a record.  A record says what
happened; its level, its place and its wording are functions of that.
-/

namespace ScriptHost

inductive LogLevel where
  | error
  | warn
  | info
  | debug
  | trace
  deriving DecidableEq, Repr

def LogLevel.name : LogLevel → String
  | .error => "ERROR"
  | .warn => "WARN"
  | .info => "INFO"
  | .debug => "DEBUG"
  | .trace => "TRACE"

/-- How much a level says: everything up to a rank is shown at once. -/
def LogLevel.rank : LogLevel → Nat
  | .error => 1
  | .warn => 2
  | .info => 3
  | .debug => 4
  | .trace => 5

inductive Event where
  /-- A realm is ready. -/
  | created (realm : UInt32) (exports : Nat)
  /-- A source is about to run. -/
  | running (bytes : Nat) (realm : UInt32) (depth : Nat)
  /-- A captured function is about to be called. -/
  | calling (realm : UInt32) (arguments : Nat)
  /-- A function was handed to a realm that it is not from. -/
  | misplaced (origin realm : UInt32)
  /-- A function of another backend was handed to a realm. -/
  | alien
  /-- A host function was called while its realm was not active. -/
  | unreachable (realm slot : UInt32)
  /-- A host function was called that was never registered. -/
  | unregistered (realm slot : UInt32)
  deriving DecidableEq, Repr

namespace Event

def level : Event → LogLevel
  | .created _ _ => .debug
  | .running _ _ _ => .debug
  | .calling _ _ => .debug
  | .misplaced _ _ => .warn
  | .alien => .warn
  | .unreachable _ _ => .error
  | .unregistered _ _ => .error

/-- The part of the program that an event happens in. -/
def place : Event → String
  | .created _ _ => "bastian_quickjs::quickjs"
  | .running _ _ _ => "bastian_core::js::runtime"
  | .calling _ _ => "bastian_quickjs::quickjs::function"
  | .misplaced _ _ => "bastian_quickjs::quickjs::value"
  | .alien => "bastian_quickjs::quickjs::value"
  | .unreachable _ _ => "bastian_quickjs::quickjs::function"
  | .unregistered _ _ => "bastian_core::js::function"

def message : Event → String
  | .created realm exports =>
    "quickjs: realm " ++ realm.toNat.repr ++ " created with " ++ exports.repr ++ " exports"
  | .running bytes realm depth =>
    "quickjs: running " ++ bytes.repr ++ " bytes in realm " ++ realm.toNat.repr ++
      " (depth " ++ depth.repr ++ ")"
  | .calling realm arguments =>
    "quickjs: calling function of realm " ++ realm.toNat.repr ++ " with " ++
      arguments.repr ++ " arguments"
  | .misplaced origin realm =>
    "quickjs: function of realm " ++ origin.toNat.repr ++ " cannot be used in realm " ++
      realm.toNat.repr
  | .alien => "quickjs: cannot extract a function from another backend"
  | .unreachable realm slot => "quickjs: " ++ (ScriptFailure.unreachable realm slot).message
  | .unregistered realm slot =>
    "realm " ++ realm.toNat.repr ++ " has no native function in slot " ++ slot.toNat.repr

end Event

end ScriptHost
