import ScriptHost.Script.Heap

/-!
# Runs

A script does not call the host itself.  Its run is a tree: either it is
finished, with the heap it leaves and how it ended, or it asks for a host
function and says how to go on with the answer.  Whoever drives the tree is free
to run other scripts in between, in the same heap too, so a run goes on with the
heap that it is given back.

All of the language is written against this tree, and everything about hosts is
proved about arbitrary trees.
-/

namespace ScriptHost.Script

/-- How a piece of code ends. -/
inductive Outcome (α : Type) where
  | returned (a : α)
  | thrown (v : Val)
  /-- It waits for something that never comes. -/
  | suspended

/-- The stack that code runs on. -/
structure Stack where
  /-- How much of it is left for calls. -/
  room : Nat
  /-- The lines that a stack trace shows for the calls on it, the innermost first. -/
  frames : List Units
  deriving DecidableEq, Inhabited

namespace Stack

/-- A stack that holds nothing yet. -/
def fresh (room : Nat) : Stack := ⟨room, []⟩

/-- The text of a stack trace. -/
def trace (s : Stack) : Units := s.frames.flatten

/-- The stack without its innermost line. -/
def caller (s : Stack) : Stack := { s with frames := s.frames.tail }

end Stack

/-- A call of a host function, with the stack that it leaves to the host. -/
structure HostCall where
  key : NativeKey
  arguments : List Val
  stack : Stack

/-- How the host answers a call. -/
inductive Reply where
  | returned (v : Val)
  /-- An error with this message is to be thrown. -/
  | failed (message : String)
  /-- This value is to be thrown. -/
  | thrown (v : Val)
  /-- The calls nest too deep. -/
  | tooDeep

inductive Run (α : Type) where
  | finished (h : Heap) (o : Outcome α)
  | host (h : Heap) (call : HostCall) (resume : Heap → Reply → Run α)

namespace Run

variable {α β : Type}

/-- Goes on after a run, however it ends. -/
def andThen (next : Heap → Outcome α → Run β) : Run α → Run β
  | finished h o => next h o
  | host h call resume => host h call fun h r => (resume h r).andThen next

@[simp] theorem andThen_finished (next : Heap → Outcome α → Run β) (h : Heap) (o : Outcome α) :
    (finished h o).andThen next = next h o := rfl

@[simp] theorem andThen_host (next : Heap → Outcome α → Run β) (h : Heap) (c : HostCall)
    (resume : Heap → Reply → Run α) :
    (host h c resume).andThen next = host h c fun h r => (resume h r).andThen next := rfl

end Run

/-- Code: what runs from a heap. -/
def Action (α : Type) := Heap → Run α

namespace Action

variable {α β : Type}

protected def pure (a : α) : Action α := fun h => .finished h (.returned a)

/-- Goes on with what code returns. -/
protected def bind (x : Action α) (f : α → Action β) : Action β := fun h =>
  (x h).andThen fun h o =>
    match o with
    | .returned a => f a h
    | .thrown v => .finished h (.thrown v)
    | .suspended => .finished h .suspended

instance : Monad Action where
  pure := Action.pure
  bind := Action.bind

/-- Ends by throwing a value. -/
def raise (v : Val) : Action α := fun h => .finished h (.thrown v)

/-- Ends by waiting for good. -/
def suspend : Action α := fun h => .finished h .suspended

/-- Goes on with what is thrown. -/
def recover (x : Action α) (handler : Val → Action α) : Action α := fun h =>
  (x h).andThen fun h o =>
    match o with
    | .thrown v => handler v h
    | o => .finished h o

/-- The outcome of code as a value; nothing escapes. -/
def outcome (x : Action α) : Action (Outcome α) := fun h =>
  (x h).andThen fun h o => .finished h (.returned o)

/-- Ends the way an outcome says. -/
def ofOutcome : Outcome α → Action α
  | .returned a => Action.pure a
  | .thrown v => raise v
  | .suspended => suspend

/-- Reads the heap. -/
def read (f : Heap → α) : Action α := fun h => .finished h (.returned (f h))

/-- Changes the heap. -/
def change (f : Heap → Heap) : Action Unit := fun h => .finished (f h) (.returned ())

/-- Changes the heap and answers what the change gives. -/
def update (f : Heap → α × Heap) : Action α := fun h => .finished (f h).2 (.returned (f h).1)

/-- Asks the host. -/
def ask (call : HostCall) : Action Reply := fun h =>
  .host h call fun h r => .finished h (.returned r)

/-- Runs code on every item, with the results so far in reverse. -/
def eachOnto (f : α → Action β) : List β → List α → Action (List β)
  | done, [] => Action.pure done.reverse
  | done, a :: rest => do
    let b ← f a
    eachOnto f (b :: done) rest

/-- Runs code on every item, in order. -/
def each (f : α → Action β) (items : List α) : Action (List β) := eachOnto f [] items

end Action

end ScriptHost.Script
