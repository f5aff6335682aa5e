import ScriptHost.Script.Grammar.Statements
import ScriptHost.Script.Machine
import ScriptHost.Script.Statement

/-!
# Running scripts

`evaluator stack` evaluates code on a stack; a call for which there is no room throws the
error of a call stack that has run out.  Between two calls the code of one body nests as
deep as its text does, which `bodyDepth` allows for.

How much of the stack a call takes, how much memory an engine needs and what things take
in it are rough measures: they are of this interpreter, and no other part of the library
knows them.

A script first declares its global names, which may clash with those of earlier
scripts of its realm, and then runs its statements.  Its value is the one that
its statements noted last.
-/

namespace ScriptHost.Script

/-! ## Memory -/

/-- The memory that an engine needs for itself, in bytes. -/
def leastMemory : Nat := 131072

/-- Whether something that takes a number of bytes fits into the memory.  A limit of zero
is no limit. -/
def Heap.grants (h : Heap) (bytes : Nat) : Bool :=
  h.memory.all fun limit => limit == 0 || leastMemory + bytes ≤ limit

/-! ## Evaluators -/

/-- The evaluator for the code of one body down to a depth, with the calls of
another evaluator. -/
def bodyEvaluator (calls : Evaluator) : Nat → Evaluator
  | 0 =>
    { calls with expr := fun _ _ => raiseTooDeep, stmt := fun _ _ => raiseTooDeep }
  | n + 1 =>
    { calls with
      expr := fun env e => exprRule (bodyEvaluator calls n) env e
      stmt := fun env s => stmtRule (bodyEvaluator calls n) env s }

/-- How deep the code of one body may nest. -/
def bodyDepth : Nat := 100000

/-- The evaluator that allows no call at all. -/
def noCalls : Evaluator :=
  { expr := fun _ _ => raiseTooDeep, stmt := fun _ _ => raiseTooDeep
    call := fun _ _ _ => raiseTooDeep, construct := fun _ _ => raiseTooDeep
    stack := default, grants := Heap.grants }

/-- Runs a call on the stack that there is inside it. -/
def withinRoom {α : Type} (stack : Stack) (f : Val) (call : Stack → Action α) : Action α := do
  let inside ← Action.read fun h => h.stackIn? stack f
  match inside with
  | none => raiseTooDeep
  | some stack => call stack

/-- The evaluator for code that nests a number of calls on a stack. -/
def nestedEvaluator : Nat → Stack → Evaluator
  | 0, stack => bodyEvaluator { noCalls with stack := stack } bodyDepth
  | n + 1, stack =>
    bodyEvaluator
      { noCalls with
        call := fun f receiver vs =>
          withinRoom stack f fun stack => callRule (nestedEvaluator n stack) f receiver vs
        construct := fun f vs =>
          withinRoom stack f fun stack => constructRule (nestedEvaluator n stack) f vs
        stack := stack } bodyDepth

/-- The evaluator for code on a stack.  Every call takes some of it, so there are never
more calls than there is room. -/
def evaluator (stack : Stack) : Evaluator := nestedEvaluator stack.room stack

/-! ## Global declarations -/

/-- How a script declares a global name. -/
inductive GlobalKind where
  | var
  | function
  | lexical (mutable : Bool)
  deriving DecidableEq

/-- The global names of a statement of a script. -/
def globalNames (s : Stmt) : List (Name × GlobalKind) :=
  (s.varNames.map fun n => (n, .var)) ++
    ((functionsOf [s]).map fun f => (f.name, .function)) ++
    ((lexicalNames [s]).map fun n => (n.1, .lexical n.2))

def raiseRedeclared {α : Type} (n : Name) : Action α :=
  raiseAbout .parse "redeclaration of '" n "'"

def raiseUndefinable {α : Type} (n : Name) : Action α :=
  raiseAbout .type "cannot define variable '" n "'"

/-- Whether a function can be declared over a property of the global object. -/
private def acceptsFunction (p : Property) : Bool :=
  p.configurable ||
    (match p.slot with
      | .data _ writable => writable && p.enumerable
      | .accessor _ _ => false)

/-- Checks one declaration against what the realm has. -/
def checkGlobal (d : Name × GlobalKind) : Action Unit := do
  let o ← Action.read fun h => h.object Place.global
  let s ← Action.read fun h => h.scope Place.globalScope
  let own := o.own? (.name d.1)
  let declared := (s.find? d.1).isSome
  match d.2 with
  | .lexical _ =>
    if own.any (fun p => !p.configurable) || declared then raiseRedeclared d.1 else pure ()
  | .var =>
    if own.isNone && !o.extensible then raiseUndefinable d.1
    else if declared then raiseRedeclared d.1
    else pure ()
  | .function =>
    if (own.isNone && !o.extensible) || own.any (fun p => !acceptsFunction p) then
      raiseUndefinable d.1
    else if declared then raiseRedeclared d.1
    else pure ()

def makeGlobal (d : Name × GlobalKind) : Action Unit :=
  match d.2 with
  | .lexical mutable =>
    Action.change fun h => h.modifyScope Place.globalScope fun s => s.declare d.1 ⟨none, mutable⟩
  | .var =>
    Action.change fun h => h.modify Place.global fun o =>
      if (o.own? (.name d.1)).isSome then o
      else o.put (.name d.1) ⟨.data .undefined true, true, false⟩
  | .function => pure ()

/-- Declares a global function with its value. -/
def makeGlobalFunction (env : Env) (f : Lambda) : Action Unit := do
  let v ← makeFunction env f
  Action.change fun h => h.modify Place.global fun o =>
    o.put (.name f.name)
      (match o.own? (.name f.name) with
        | some p =>
          if p.configurable then ⟨.data v true, true, false⟩ else { p with slot := .data v true }
        | none => ⟨.data v true, true, false⟩)

/-- Declares the global names of a script. -/
def declareGlobals (env : Env) (body : List Stmt) : Action Unit := do
  let ds := body.flatMap globalNames
  let _ ← Action.each checkGlobal ds
  let _ ← Action.each makeGlobal ds
  let _ ← Action.each (makeGlobalFunction env) (functionsOf body)
  pure ()

/-! ## Scripts -/

/-- The stack that a script runs on. -/
def Stack.ofScript (s : Stack) : Stack :=
  { s with frames := frameLine (text "<eval>") "eval_script" :: s.frames }

/-- Runs a program as a script of its realm. -/
def runProgram (stack : Stack) (body : List Stmt) : Action Val := framed stack.ofScript do
  let r ← Action.update fun h => h.allocateScope ⟨[(completionName, ⟨some .undefined, true⟩)], none⟩
  let env : Env :=
    { scope := Place.globalScope, receiver := .object Place.global, completion := some r }
  declareGlobals env body
  let _ ← runAll (evaluator stack.ofScript) env body
  noted env

/-- Why a source cannot be read.  The stack trace of one that spells no program names the
place in the source instead of a frame; reading one that nests too deep runs out of stack
before there is any frame. -/
def Rejection.refusal : Rejection → Refusal
  | .unexpected => .error .parse "unexpected token" (some "    at eval_script:1:1\n")
  | .tooDeep => .error .range "Maximum call stack size exceeded" (some "")

/-- Reads a source, which takes some memory. -/
def load (stack : Stack) (source : String) (h : Heap) : Except Refusal (Action Val) :=
  if h.grants source.utf8ByteSize then
    match parse stack.room source with
    | .ok body => .ok (runProgram stack body)
    | .error r => .error r.refusal
  else .error (.error .internal "out of memory" none)

/-! ## Limits -/

/-- Whether an engine can be made under the limits of a configuration. -/
def suffice (l : RuntimeLimits) : Bool :=
  l.memory.all fun n => n == 0 || leastMemory ≤ n.toNat

/-- The stack of an engine whose configuration does not limit it, which is as large as
a mebibyte. -/
def standardRoom : Nat := 8000

/-- The stack of an engine that may use as much as there is. -/
def largestRoom : Nat := 10 * standardRoom

/-- The addresses of a process are smaller than this. -/
def addressBound : Nat := Nat.pow 2 47

/-- How much stack an engine has.  A limit that is larger than every address leaves
nothing. -/
def roomOf (l : RuntimeLimits) : Nat :=
  match l.stack with
  | none => standardRoom
  | some n =>
    if n == 0 then largestRoom
    else if addressBound ≤ n.toNat then 0
    else min largestRoom (n.toNat * standardRoom / 1048576)

end ScriptHost.Script

namespace ScriptHost

/-- The interpreter as an engine. -/
instance interpreter : Machine where
  evaluator := Script.evaluator
  load := Script.load
  starts := Script.suffice
  stack l := .fresh (Script.roomOf l)
  nesting := 400

end ScriptHost
