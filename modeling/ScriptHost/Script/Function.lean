import ScriptHost.Script.Assignment
import ScriptHost.Script.Operator

/-!
# Functions

A function of a program is an object that remembers the scope it was made in.  A
call makes a scope for the parameters and for everything that the body declares,
and runs the body there.

A function that waits runs up to the first value it waits for and answers a
promise; nothing ever resumes it.  The body of a function that yields does not
start at all when the function is called.
-/

namespace ScriptHost.Script

variable (ev : Evaluator)

/-! ## Making functions -/

/-- The scope that a function sees: its surroundings, and its own name if it
binds itself. -/
def functionScope (h : Heap) (f : Lambda) (scope : ScopeRef) (self : ObjectRef) :
    ScopeRef × Heap :=
  if f.bindsItself then
    h.allocateScope ⟨[(f.name, ⟨some (.object self), false⟩)], some scope⟩
  else (scope, h)

/-- The object that instances of a constructor, or the iterators that a function
answers, inherit from. -/
def instancePrototype (f : Lambda) (self : ObjectRef) : Object :=
  if f.suspension = .yields then .ofKind .plain (some Place.iteratorPrototype)
  else .make .plain (some Place.objectPrototype) [(key "constructor", .hidden (.object self))]

/-- Whether a function has an object that others inherit from. -/
def hasPrototype (f : Lambda) : Bool := f.constructs || f.suspension = .yields

/-- A new function object. -/
def makeFunction (env : Env) (f : Lambda) : Action Val :=
  Action.update fun h =>
    let self := h.objects.size
    let (scope, h) := functionScope h f env.scope self
    let properties := functionProperties f.name f.parameters.length
    let properties :=
      if hasPrototype f then
        properties ++ [(key "prototype",
          ⟨.data (.object (self + 1)) (f.style != .classBody), false, false⟩)]
      else properties
    let (r, h) := h.allocate
      (.make (.function (.closure f scope env.receiver)) (some Place.functionPrototype) properties)
    let h := if hasPrototype f then (h.allocate (instancePrototype f r)).2 else h
    (.object r, h)

/-! ## Entering a body -/

/-- Values for parameters, undefined where there are too few. -/
def bindParameters : List Name → List Val → List (Name × Binding)
  | [], _ => []
  | p :: ps, [] => (p, ⟨some .undefined, true⟩) :: bindParameters ps []
  | p :: ps, v :: vs => (p, ⟨some v, true⟩) :: bindParameters ps vs

/-- Declares the lexical names of a block, without values. -/
def declareLexical (r : ScopeRef) (body : List Stmt) : Action Unit :=
  Action.change fun h => h.modifyScope r fun s =>
    (lexicalNames body).foldl (fun s n => s.declare n.1 ⟨none, n.2⟩) s

/-- Declares the functions of a block with their values. -/
def declareFunctions (env : Env) (body : List Stmt) : Action Unit := do
  let _ ← Action.each (fun f => do
    let v ← makeFunction env f
    Action.change fun h => h.modifyScope env.scope fun s => s.declare f.name ⟨some v, true⟩)
    (functionsOf body)
  pure ()

/-- The object that holds the arguments of a call.  It does not tell who called. -/
def argumentsObject (vs : List Val) : Action Val :=
  Action.update fun h =>
    let guard : Val := .object Place.forbidden
    let o := Object.make .arguments (some Place.objectPrototype)
      [(key "length", .hidden (.ofNat vs.length)),
        (key "callee", ⟨.accessor guard guard, false, false⟩)]
    let (r, h) := h.allocate (o.fill 0 (vs.map some))
    (.object r, h)

/-- Declares the `var` names that are not parameters. -/
def declareVars (names : List Name) (bindings : List (Name × Binding)) :
    List (Name × Binding) :=
  names.foldl (fun bs n =>
    if bs.any fun b => b.1 == n then bs else (n, ⟨some .undefined, true⟩) :: bs) bindings

/-- The environment of a body. -/
def enterBody (f : Lambda) (scope : ScopeRef) (receiver : Val) (vs : List Val) : Action Env := do
  let own ←
    if f.style = .arrow then pure []
    else do
      let a ← argumentsObject vs
      pure [(text "arguments", (⟨some a, true⟩ : Binding))]
  let parameters := bindParameters f.parameters vs
  let hidden := parameters.any fun b => b.1 == text "arguments"
  let bindings := declareVars (varNamesOf f.body) (parameters ++ if hidden then [] else own)
  let r ← Action.update fun h => h.allocateScope ⟨bindings, some scope⟩
  let env : Env := { scope := r, receiver := receiver }
  declareLexical r f.body
  declareFunctions env f.body
  pure env

/-- Runs statements until one leads away. -/
def runAll (env : Env) : List Stmt → Action Flow
  | [] => pure .next
  | s :: rest => do
    let flow ← ev.stmt env s
    match flow with
    | .next => runAll env rest
    | flow => pure flow

/-- What a body answers. -/
def runBody (f : Lambda) (scope : ScopeRef) (receiver : Val) (vs : List Val) : Action Val := do
  let env ← enterBody f scope receiver vs
  let flow ← runAll ev env f.body
  match flow with
  | .answer v => pure v
  | _ => pure .undefined

def newPromise : Action Val := newObject .promise Place.promisePrototype []

/-- What the objects that a function makes inherit from. -/
def prototypeFor (f : Val) (default : ObjectRef) : Action ObjectRef := do
  let p ← getProperty ev f (key "prototype")
  match p with
  | .object r => pure r
  | _ => pure default

/-- Calls a function of a program. -/
def callClosure (self : Val) (f : Lambda) (scope : ScopeRef) (receiver : Val) (vs : List Val) :
    Action Val :=
  match f.suspension with
  | .none => runBody ev f scope receiver vs
  | .waits => do
    let _ ← (runBody ev f scope receiver vs).outcome
    newPromise
  | .yields => do
    let p ← prototypeFor ev self Place.iteratorPrototype
    newObject .plain p []

/-! ## Host functions -/

/-- Throws the error that a host function ended with.  The message is written
like any other property, and the error has no stack trace yet. -/
def raiseFailed (message : String) : Action Val := do
  let e ← newObject .error (Place.errorPrototype .error) []
  setProperty ev e (key "message") (.string (text message))
  Action.raise e

/-- Goes on with the answer of the host. -/
def afterReply : Reply → Action Val
  | .returned v => pure v
  | .thrown v => Action.raise v
  | .failed message => raiseFailed ev message
  | .tooDeep => raiseTooDeep

/-- Calls a host function. -/
def callNative (k : NativeKey) (vs : List Val) : Action Val := do
  let reply ← Action.ask ⟨k, vs, ev.stack⟩
  afterReply ev reply

/-! ## Constructing -/

/-- Constructs with a function of a program. -/
def constructClosure (self : Val) (f : Lambda) (scope : ScopeRef) (vs : List Val) :
    Action Val := do
  let p ← prototypeFor ev self Place.objectPrototype
  let receiver ← newObject .plain p []
  let v ← runBody ev f scope receiver vs
  match v with
  | .object r => pure (.object r)
  | _ => pure receiver

end ScriptHost.Script
