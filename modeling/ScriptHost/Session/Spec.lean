import ScriptHost.Callback.Body
import ScriptHost.Value.Text

/-!
# Descriptions of values and callbacks

A session is a host that is told what to do.  It is told in descriptions: of a
value to make, of something to export, of what a callback does.  A description
can be followed any number of times, and makes something new each time.

Following a description uses what the session remembers, its variables and its
counters.  A variable that is not there stands for undefined.
-/

namespace ScriptHost.Session

mutual
/-- A value to make. -/
inductive ValueSpec where
  | null
  | undefined
  | number (x : Double)
  | string (s : String)
  | object (exports : ExportSpecs)
  /-- The value of a variable, not a new one. -/
  | var (name : String)
  /-- A function of another backend. -/
  | foreign (backend : String)

/-- Something to export. -/
inductive ExportSpec where
  | value (v : ValueSpec)
  | callback (f : Callback)
  | nested (exports : ExportSpecs)
  /-- The number of times that a counter was exported. -/
  | counter (name : String)

/-- Named things to export, in order. -/
inductive ExportSpecs where
  | nil
  | cons (name : String) (item : ExportSpec) (rest : ExportSpecs)

/-- What a callback does. -/
inductive Callback where
  | noop
  | identity
  /-- Answers an argument. -/
  | arg (index : Nat)
  /-- Answers a value, made anew every time. -/
  | const (v : ValueSpec)
  /-- Notes what its arguments look like. -/
  | collect
  /-- Makes its first argument the value of a variable. -/
  | define (name : String)
  /-- Removes a variable. -/
  | forget (name : String)
  /-- Adds the numbers of its arguments. -/
  | sum
  /-- Doubles the number of its first argument. -/
  | double
  /-- Joins the texts of its arguments. -/
  | concat
  /-- Names the kinds of its arguments. -/
  | describe
  /-- Shows its arguments. -/
  | display
  /-- Counts its arguments. -/
  | count
  | fail (message : String)
  /-- Fails with what its first argument shows. -/
  | failValue
  | answerFail (v : ValueSpec) (message : String)
  | failAnswer (v : ValueSpec) (message : String)
  | failTwice (message second : String)
  | answerTwice (v second : ValueSpec)
  /-- Calls its first argument with the others. -/
  | apply
  /-- The same, but answers what went wrong. -/
  | tryApply
  /-- Calls its second argument a number of times and adds the results. -/
  | map
  /-- Calls the value of a variable. -/
  | callVar (name : String)
  /-- Runs a source, or its first argument, on an engine. -/
  | run (engine : String) (source : Option String)
  /-- Answers how deep the active stack is. -/
  | depth
  /-- Answers the innermost active realm. -/
  | current
  /-- Answers the realm that it was called from. -/
  | realm
  /-- Answers how many callbacks that realm has. -/
  | natives
end

instance : Inhabited ExportSpecs := ⟨.nil⟩

/-- Named descriptions from a list. -/
def ExportSpecs.ofList : List (String × ExportSpec) → ExportSpecs
  | [] => .nil
  | (name, item) :: rest => .cons name item (ofList rest)

/-- What a value looks like from outside. -/
inductive Appearance where
  | number (x : Double)
  | string (s : String)
  | function (backend : String)
  | object (names : List String)
  | null
  | undefined

def appearance {φ : Type} : Value φ → Appearance
  | .null => .null
  | .undefined => .undefined
  | .number _ x => .number x
  | .string _ s => .string s
  | .function _ f => .function f.backend
  | .object _ n => .object n.names

/-! ## What a session remembers -/

/-- Names with what they stand for. -/
abbrev Named (α : Type) := List (String × α)

namespace Named

variable {α : Type}

def find? (l : Named α) (name : String) : Option α :=
  (List.find? (fun e => e.1 == name) l).map (·.2)

def put (l : Named α) (name : String) (a : α) : Named α :=
  (name, a) :: l.filter fun e => e.1 != name

def erase (l : Named α) (name : String) : Named α := l.filter fun e => e.1 != name

end Named

/-- What a session remembers beside its realms. -/
structure Memory where
  vars : Named (Value Callback) := []
  engines : Named (Engine ExportSpecs) := []
  counters : Named Nat := []
  /-- The collected arguments, the latest call first. -/
  collected : List (List Appearance) := []
  /-- The number of callbacks called. -/
  calls : Nat := 0

/-! ## Following descriptions -/

/-- The backends that foreign functions and realms can be from. -/
def backendNamed (name : String) : String :=
  if name = "mock" || name = "v8" || name = "quickjs" then name else "test"

/-- What following a description changes: the next identity, and the memory. -/
abbrev Making (α : Type) := StateM (ValueId × Memory) α

/-- A new identity. -/
def takeId : Making ValueId := fun (id, m) => (id, (id + 1, m))

/-- Adds one to a counter and answers the new count. -/
def countUp (name : String) : Making Nat := fun (id, m) =>
  let n := (m.counters.find? name).getD 0 + 1
  (n, (id, { m with counters := m.counters.put name n }))

mutual
/-- The value that a description makes. -/
def ValueSpec.make : ValueSpec → Making (Value Callback)
  | .null => pure .null
  | .undefined => pure .undefined
  | .number x => do
    let id ← takeId
    pure (.number id x)
  | .string s => do
    let id ← takeId
    pure (.string id s)
  | .object exports => do
    let b ← exports.make {}
    let id ← takeId
    pure (.object id b.build)
  | .var name => fun (id, m) => ((m.vars.find? name).getD .undefined, (id, m))
  | .foreign backend => do
    let id ← takeId
    pure (.function id (.foreign (backendNamed backend)))

/-- What a description exports. -/
def ExportSpec.make : ExportSpec → Making (Export Callback)
  | .value v => do
    let v ← v.make
    pure (.value v)
  | .callback f => pure (.callback f)
  | .nested exports => do
    let b ← exports.make {}
    pure (.nested b.build)
  | .counter name => do
    let n ← countUp name
    let id ← takeId
    pure (.value (.number id (Double.ofInt n)))

/-- Exports what descriptions say, in order. -/
def ExportSpecs.make : ExportSpecs → ExportBuilder Callback → Making (ExportBuilder Callback)
  | .nil, b => pure b
  | .cons name item rest, b => do
    let x ← item.make
    rest.make (b.export name x)
end

/-- The values that descriptions make, in order. -/
def makeEach : List ValueSpec → Making (List (Value Callback))
  | [] => pure []
  | v :: vs => do
    let x ← v.make
    let xs ← makeEach vs
    pure (x :: xs)

/-- The variable that a description asks for and that is not there. -/
def ValueSpec.missing? (m : Memory) : ValueSpec → Option String
  | .var name => if (m.vars.find? name).isSome then none else some name
  | _ => none

/-- A description as something that a callback can make. -/
def ValueSpec.made (v : ValueSpec) (id : ValueId) (m : Memory) : Made Callback Memory :=
  let (x, (next, m)) := v.make (id, m)
  ⟨x, next - id, m⟩

/-- The exports that descriptions generate. -/
def ExportSpecs.generate (exports : ExportSpecs) (id : ValueId) (m : Memory) :
    Generated Callback Memory :=
  let (b, (next, m)) := exports.make {} (id, m)
  ⟨b.build, next - id, m⟩

end ScriptHost.Session
