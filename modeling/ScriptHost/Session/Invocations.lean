import ScriptHost.Session.Behaviour

/-!
# Invocations step by step

The steps of one callback in a fresh realm, taken from outside.
-/

namespace ScriptHost.Session

inductive InvocationStep where
  | argument (index : Nat)
  | arguments
  | size
  | realm
  | answer (v : ValueSpec)
  | fail (v : ValueSpec)

inductive InvocationResult where
  | none
  | value (a : Appearance)
  | values (as : List Appearance)
  | size (n : Nat) (isEmpty : Bool)
  /-- The realm's identifier, and whether it is the realm that was given. -/
  | realm (id : UInt32) (same : Bool)
  | returned (a : Appearance)
  | thrown (message : String)

structure InvocationState where
  invocation : Invocation Callback
  world : World Callback Memory
  recorded : Recorded Callback := {}
  making : ValueId × Memory

private def made (s : InvocationState) (v : ValueSpec) : Value Callback × InvocationState :=
  let (x, making) := v.make s.making
  (x, { s with making := making })

def followInvocation (s : InvocationState) :
    InvocationStep → InvocationResult × InvocationState
  | .argument n => (.value (appearance (s.invocation.argument n)), s)
  | .arguments => (.values (s.invocation.arguments.map appearance), s)
  | .size => (.size s.invocation.arguments.length s.invocation.arguments.isEmpty, s)
  | .realm =>
    (.realm (s.world.idOf s.invocation.realm) (s.invocation.realm == s.world.realms.size - 1), s)
  | .answer v =>
    let (x, s) := made s v
    (.none, { s with recorded := { s.recorded with result := some x } })
  | .fail v =>
    let (x, s) := made s v
    (.none, { s with recorded := { s.recorded with error := some x.display } })

def invocationResultsFrom : List InvocationStep → InvocationState → List InvocationResult
  | [], s =>
    [match s.recorded.completion with
      | .returned v => .returned (appearance v)
      | .thrown message => .thrown message]
  | x :: rest, s =>
    let (r, s) := followInvocation s x
    r :: invocationResultsFrom rest s

/-- Follows all steps of a callback with the given arguments; the last result is
how it ends. -/
def invocationResults (arguments : List ValueSpec) (steps : List InvocationStep) :
    List InvocationResult :=
  let (r, w) := (World.start {} : World Callback Memory).addRealm (backendNamed "") (.text "state")
    default
  let (vs, making) := makeEach arguments (0, {})
  invocationResultsFrom steps { invocation := ⟨r, vs⟩, world := w, making := making }

end ScriptHost.Session
