import ScriptHost.Boundary.Inward
import ScriptHost.Boundary.Outward
import ScriptHost.Boundary.Report
import ScriptHost.Callback.Body

/-!
# Calls and runs

The host runs a source in a realm, calls a function that it holds, and makes
realms; a script calls callbacks of the host.  Each of these is written for a
given dispatcher, so none of them is recursive: nesting is in `Dispatch`.

A call or a run makes its realm the innermost active one and takes it off the
stack again however it ends.

Generators run in front of a run, and functions of other backends are called, without any script
in between, so for the services that they get nesting is counted here.
-/

namespace ScriptHost

variable [Machine] {φ γ σ : Type}

/-! ## Running a source -/

/-- A source with a NUL is not handed to a script engine. -/
def Failure.nulInSource (bytes : Nat) : Failure :=
  .script (.exception ("String contained internal null bytes: nul byte found in provided data " ++
    "at position: " ++ bytes.repr))

/-- The number of bytes in front of the first NUL. -/
def nulPosition? (source : String) : Option Nat := go source.toList 0
where
  go : List Char → Nat → Option Nat
    | [], _ => none
    | c :: cs, n => if c = '\x00' then some n else go cs (n + c.utf8Size)

/-- The host's view of how a script ended. -/
def Crossing.conclude (c : Crossing φ σ) (o : Script.Outcome Script.Val) (w : World φ σ) :
    World φ σ × Except Failure (Value φ) :=
  match o with
  | .returned v => c.toValue v w
  | .thrown v =>
    let (w, f) := c.report v w
    (w, .error f)
  | .suspended => (w, .ok .undefined)

/-- Runs a source in a context. -/
def Crossing.runSource (c : Crossing φ σ) (source : String) (w : World φ σ) :
    World φ σ × Except Failure (Value φ) :=
  match nulPosition? source with
  | some n => (w, .error (.nulInSource n))
  | none =>
    let (w, o) := c.run (Machine.runSource c.stack source) w
    c.conclude o w

/-- Runs a source in a realm.  The realm is not made active. -/
def execute (d : Dispatcher φ σ) (left : Script.Stack) (r : RealmRef) (source : String)
    (w : World φ σ) : World φ σ × Except Failure (Value φ) :=
  w.withContext r left fun context stack w => Crossing.runSource ⟨d, context, r, stack⟩ source w

/-! ## Making a realm -/

/-- A realm could not be made for lack of memory. -/
def Failure.noMemory : Failure :=
  .script (.startup "Allocation failed while creating object")

/-- Makes a realm whose global object carries the exports of a namespace. -/
def createRealm (d : Dispatcher φ σ) (left : Script.Stack) (config : EngineConfig) (n : Namespace φ)
    (w : World φ σ) : World φ σ × Except Failure RealmRef :=
  if Machine.starts config.runtime then
    let heap := { Script.Heap.standard with memory := config.runtime.memory.map UInt64.toNat }
    let (r, w) := w.addRealm scriptBackend (.script heap) (Machine.stack config.runtime)
    let (w, result) := w.withContext r left fun context stack w =>
      n.install ⟨d, context, r, stack⟩ Script.Place.global w
    match result with
    | .ok () => (w.record (.created (w.idOf r) n.size), .ok r)
    | .error e => (w, .error e)
  else (w, .error .noMemory)

/-! ## Running on an engine -/

/-- Runs a source in a fresh realm that carries the exports of a namespace. -/
def runExports (d : Dispatcher φ σ) (left : Script.Stack) (config : EngineConfig)
    (n : Namespace φ) (source : String) (w : World φ σ) : World φ σ × Except Failure (Value φ) :=
  match createRealm d left config n w with
  | (w, .error e) => (w, .error e)
  | (w, .ok r) =>
    let w := w.record (.running source.utf8ByteSize (w.idOf r) w.depth)
    let (guard, w) := w.enter r
    let (w, result) := execute d left r source w
    (w.leave guard, result)

/-- The exports that a generator makes for a run. -/
def generateExports (host : Host φ γ σ) (s : Services φ γ σ) (g : γ) (w : World φ σ) :
    World φ σ × Namespace φ :=
  let w := ((host.prepare g).perform s none {} w).1
  let made := host.generate g w.nextValue w.host
  ({ w with nextValue := w.nextValue + made.taken, host := made.host }, made.exports)

/-- Runs a source on an engine, with services for the generator. -/
def runWith (host : Host φ γ σ) (s : Services φ γ σ) (d : Dispatcher φ σ) (left : Script.Stack)
    (engine : Engine γ) (source : String) (w : World φ σ) :
    World φ σ × Except Failure (Value φ) :=
  let (w, n) := generateExports host s engine.generator w
  runExports d left engine.config n source w

/-! ## Calling a function -/

/-- Calls a function of a context on the global object. -/
def Crossing.callFunction (c : Crossing φ σ) (f : FunctionRef) (arguments : List (Value φ))
    (w : World φ σ) : World φ σ × Except Failure (Value φ) :=
  match c.restore f w with
  | (w, .error e) => (w, .error e)
  | (w, .ok f) =>
    match c.extractAll arguments w with
    | (w, .error e) => (w, .error e)
    | (w, .ok vs) =>
      let (w, o) := c.run (c.evaluator.call f (.object Script.Place.global) vs) w
      c.conclude o w

/-- Calls a function that the host holds, with services for one of another backend. -/
def callWith (host : Host φ γ σ) (s : Services φ γ σ) (d : Dispatcher φ σ) (left : Script.Stack)
    (f : FunctionRef) (arguments : List (Value φ)) (w : World φ σ) :
    World φ σ × Except Failure (Value φ) :=
  match f with
  | .foreign backend =>
    let (w, completion) := (host.act backend arguments).perform s none {} w
    (w, host.outcome completion w.host)
  | .captured r _ =>
    let w := w.record (.calling (w.idOf r) arguments.length)
    let (guard, w) := w.enter r
    let (w, result) := w.withContext r left fun context stack w =>
      Crossing.callFunction ⟨d, context, r, stack⟩ f arguments w
    (w.leave guard, result)

/-! ## Services -/

/-- Host code that nests too deep gets no further. -/
def Services.refusing : Services φ γ σ :=
  { call := fun _ _ w => (w, .error (.script .busy))
    run := fun _ _ w => (w, .error (.script .busy)) }

/-- How host code calls and runs under a dispatcher, with what is left of the stack, if its
generators and functions nest at most `n` deep. -/
def servicesWithin (host : Host φ γ σ) (d : Dispatcher φ σ) (left : Script.Stack) :
    Nat → Services φ γ σ
  | 0 => .refusing
  | n + 1 =>
    { call := fun f arguments w =>
        callWith host (servicesWithin host d left n) d left f arguments w
      run := fun engine source w =>
        runWith host (servicesWithin host d left n) d left engine source w }

/-- How host code calls and runs under a dispatcher, with what is left of the stack. -/
def services (host : Host φ γ σ) (d : Dispatcher φ σ) (left : Script.Stack) : Services φ γ σ :=
  servicesWithin host d left (Machine.nesting + 1)

/-- Calls a function that the host holds. -/
def callFunction (host : Host φ γ σ) (d : Dispatcher φ σ) (left : Script.Stack) (f : FunctionRef)
    (arguments : List (Value φ)) (w : World φ σ) : World φ σ × Except Failure (Value φ) :=
  (services host d left).call f arguments w

/-- Runs a source on an engine. -/
def runEngine (host : Host φ γ σ) (d : Dispatcher φ σ) (left : Script.Stack) (engine : Engine γ)
    (source : String) (w : World φ σ) : World φ σ × Except Failure (Value φ) :=
  (services host d left).run engine source w

/-- The exports of a run on an engine, and the world in which its realm is made. -/
def Engine.exports (engine : Engine γ) (host : Host φ γ σ) (d : Dispatcher φ σ)
    (left : Script.Stack) (w : World φ σ) : World φ σ × Namespace φ :=
  generateExports host (servicesWithin host d left Machine.nesting) engine.generator w

theorem runEngine_eq_runExports (host : Host φ γ σ) (d : Dispatcher φ σ) (left : Script.Stack)
    (engine : Engine γ) (source : String) (w : World φ σ) :
    runEngine host d left engine source w =
      runExports d left engine.config (engine.exports host d left w).2 source
        (engine.exports host d left w).1 := rfl

/-! ## Calling a callback -/

/-- What a script gets for the way a callback ended. -/
def Crossing.reply (c : Crossing φ σ) (completion : Completion φ) (w : World φ σ) :
    World φ σ × Script.Reply :=
  match completion with
  | .thrown message => (w, .failed message)
  | .returned v =>
    match v.extract c w with
    | (w, .ok x) => (w, .returned x)
    | (w, .error e) => (w, .failed e.message)

/-- Answers a host call, with a way to find its realm and to invoke a callback there: the callback
gets the arguments as host values, and its result goes back into the realm it is from. -/
def answerWith (find : World φ σ → Option RealmRef)
    (invoke : RealmRef → UInt32 → List (Value φ) → World φ σ → World φ σ × Completion φ)
    (d : Dispatcher φ σ) (context : RealmRef) (call : Script.HostCall) (w : World φ σ) :
    World φ σ × Script.Reply :=
  match find w with
  | none =>
    (w.record (.unreachable call.key.realm call.key.slot),
      .failed (ScriptFailure.unreachable call.key.realm call.key.slot).message)
  | some r =>
    let c : Crossing φ σ := ⟨d, context, r, call.stack⟩
    match c.toValues call.arguments w with
    | (w, .error e) => (w, .failed e.message)
    | (w, .ok arguments) =>
      let (w, completion) := invoke r call.key.slot arguments w
      c.reply completion w

/-- Answers a host call, with a probe in front of each step of the callback.  The realm is found
through the active stack. -/
def answerProbed (probe : World φ σ → World φ σ) (host : Host φ γ σ) (d : Dispatcher φ σ)
    (context : RealmRef) (call : Script.HostCall) : World φ σ → World φ σ × Script.Reply :=
  answerWith (fun w => w.findActive? call.key.realm)
    (fun r slot arguments w =>
      w.invokeProbed probe host (services host d call.stack) r slot arguments) d context call

/-- Answers a host call. -/
def answer (host : Host φ γ σ) (d : Dispatcher φ σ) (context : RealmRef)
    (call : Script.HostCall) (w : World φ σ) : World φ σ × Script.Reply :=
  answerProbed id host d context call w

end ScriptHost
