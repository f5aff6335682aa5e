import ScriptHost.Config.Basic
import ScriptHost.Script.Assignment

/-!
# Engines

What a host needs of an engine: how code is evaluated on a stack, what a source comes to,
and what an engine gets under the limits of a configuration.  Nothing is said here about the
language beyond its objects and their properties, and nothing about how large anything is.
Everything about hosts is written, and proved, for any such machine; `Interpreter` is one.

A source is read before any of it runs.  Reading fails if the source spells no program, and
also if the reader runs out of stack or of memory; it then throws an error of some type, or
null if even the error could not be made.
-/

namespace ScriptHost.Script

/-- Why a source cannot be read. -/
inductive Refusal where
  /-- An error with a message, and with a stack trace unless it has none. -/
  | error (t : ErrorType) (message : String) (stack : Option String)
  /-- Not even an error could be made. -/
  | bare
  deriving DecidableEq

/-- Throws what a refusal says. -/
def Refusal.raise : Refusal → Action Val
  | .error t message stack => do
    let e ← newError t (some (text message)) (stack.map text)
    Action.raise e
  | .bare => Action.raise .null

end ScriptHost.Script

namespace ScriptHost

open Script

/-- An engine. -/
class Machine where
  /-- How code is evaluated on a stack. -/
  evaluator : Stack → Evaluator
  /-- What a source comes to on a stack in a heap: the code of its program, or the reason why
  it cannot be read. -/
  load : Stack → String → Heap → Except Refusal (Action Val)
  /-- Whether an engine can be made under the limits of a configuration. -/
  starts : RuntimeLimits → Bool
  /-- The stack that an engine has under the limits of a configuration. -/
  stack : RuntimeLimits → Stack
  /-- How deep calls of the host may nest, as far as the stack of the process goes. -/
  nesting : Nat

namespace Machine

variable [Machine]

/-- Runs a source. -/
def runSource (stack : Stack) (source : String) : Action Val := fun h =>
  match load stack source h with
  | .ok program => program h
  | .error r => r.raise h

end Machine

end ScriptHost
