import ScriptHost.Engine.Dispatch
import ScriptHost.Script.Interpreter
import ScriptHost.Session.Behaviour
import ScriptHost.Session.Raw

/-!
# Sessions

A session follows steps.  It names what the steps make: values and engines are in
its memory, realms and guards beside it.  Every step has a result and leaves the
records of what happened during it; a step that names what is not there is
refused, and the next one goes on.
-/

namespace ScriptHost.Session

/-- What share counts are asked of. -/
inductive Shared where
  | realm (name : String)
  | var (name : String)
  | engine (name : String)

inductive Step where
  | engine (name : String) (exports : ExportSpecs) (config : Option String)
  | run (engine source : String) (name : Option String)
  | call (f : ValueSpec) (arguments : List ValueSpec) (name : Option String)
  | realm (name : String) (exports : ExportSpecs) (config : Option String)
  | textRealm (name backend : String)
  | describeRealm (realm : String)
  | register (realm : String) (f : Callback)
  | native (realm : String) (slot : Nat)
  | invoke (realm : String) (slot : Nat) (arguments : List ValueSpec)
  | execute (realm source : String) (name : Option String)
  | enter (realm name : String)
  | leave (guard : String)
  | active
  | find (id : Nat)
  | share (what : Shared)
  | sameRealm (a b : String)
  | functionRealm (f : ValueSpec)
  | adopt (f : ValueSpec) (name : String)
  | extract (realm : String) (v : ValueSpec)
  | marshal (realm : String) (raw : RawSpec) (name : Option String)
  | set (name : String) (v : ValueSpec)
  | «show» (v : ValueSpec)
  | drop (what : Shared)
  | collected
  | calls

/-- What is told of a realm. -/
structure RealmView where
  id : UInt32
  backend : String
  natives : Nat
  isScript : Bool
  text : Option String
  debug : String

inductive Result where
  | none
  | refused (message : String)
  | failed (f : Failure)
  | value (a : Appearance)
  | bool (b : Bool)
  | count (n : Nat)
  | optionalCount (n : Option Nat)
  | engineMade
  | realm (v : RealmView)
  | key (k : NativeKey)
  | returned (a : Appearance)
  | thrown (message : String)
  | stack (depth : Nat) (current : Option UInt32)
  | found (id : Option UInt32)
  | realmId (id : Option UInt32)
  | raw (v : RawView)
  | marshaled (raw : RawView) (value : Appearance) (back : RawView) (same : Bool)
  | collected (calls : List (List Appearance))

/-- What a session knows. -/
structure State where
  world : World Callback Memory := World.start {}
  realms : Named RealmRef := []
  guards : Named World.Guard := []

namespace State

/-- Changes the memory. -/
def remember (s : State) (f : Memory → Memory) : State :=
  { s with world := { s.world with host := f s.world.host } }

/-- Names a value. -/
def setVar (s : State) (name : Option String) (v : Value Callback) : State :=
  match name with
  | some name => s.remember fun m => { m with vars := m.vars.put name v }
  | none => s

/-- Makes a described value, or names the variable that is missing. -/
def make (s : State) (v : ValueSpec) : Except String (Value Callback × State) :=
  match v.missing? s.world.host with
  | some name => .error ("no var " ++ name)
  | none =>
    let made := v.made s.world.nextValue s.world.host
    .ok (made.value,
      { s with world :=
          { s.world with nextValue := s.world.nextValue + made.taken, host := made.host } })

def makeAll (s : State) : List ValueSpec → Except String (List (Value Callback) × State)
  | [] => .ok ([], s)
  | v :: vs => do
    let (x, s) ← s.make v
    let (xs, s) ← s.makeAll vs
    .ok (x :: xs, s)

/-- The realm of a name. -/
def realm (s : State) (name : String) : Except String RealmRef :=
  match s.realms.find? name with
  | some r => .ok r
  | none => .error ("no realm " ++ name)

def viewRealm (s : State) (r : RealmRef) : RealmView :=
  let x := s.world.realm r
  ⟨x.id, x.backend, x.natives.size, x.isScript, x.text?, x.debugTree.compact⟩

/-- The result of a call or run, whose value gets a name. -/
def concludeValue (s : State) (name : Option String)
    (r : World Callback Memory × Except Failure (Value Callback)) : Result × State :=
  let s := { s with world := r.1 }
  match r.2 with
  | .ok v => (.value (appearance v), s.setVar name v)
  | .error e => (.failed e, s)

/-- What is active. -/
def stack (s : State) : Result := .stack s.world.depth (s.world.current?.map s.world.idOf)

end State

/-! ## Share counts -/

mutual
/-- The captured functions that can be reached from a value, by identity. -/
def functionsIn : Value Callback → List (ValueId × RealmRef)
  | .function id (.captured r _) => [(id, r)]
  | .object _ exports => functionsInNamespace exports
  | _ => []

def functionsInNamespace : Namespace Callback → List (ValueId × RealmRef)
  | .empty => []
  | .entry _ item rest => functionsInExport item ++ functionsInNamespace rest

def functionsInExport : Export Callback → List (ValueId × RealmRef)
  | .value v => functionsIn v
  | .callback _ => []
  | .nested exports => functionsInNamespace exports
end

mutual
/-- The handles found so far, with one more, and those in its object unless it was found. -/
def handlesIn : Value Callback → List Identity → List Identity
  | .object id exports, found =>
    if found.contains (.made id) then .made id :: found
    else handlesInNamespace exports (.made id :: found)
  | v, found => v.identity :: found

def handlesInNamespace : Namespace Callback → List Identity → List Identity
  | .empty, found => found
  | .entry _ item rest, found => handlesInNamespace rest (handlesInExport item found)

def handlesInExport : Export Callback → List Identity → List Identity
  | .value v, found => handlesIn v found
  | .callback _, found => found
  | .nested n, found => handlesInNamespace n found
end

/-- The handles to the values that variables hold, and the thread's own. -/
def handlesHeld (m : Memory) : List Identity :=
  m.vars.foldl (fun found e => handlesIn e.2 found) [.null, .undefined]

/-- How many hold a realm: its names, its entries on the active stack, and the
functions captured in it. -/
def realmShares (s : State) (r : RealmRef) : Nat :=
  let held := (s.world.host.vars.flatMap fun e => functionsIn e.2).eraseDups
  (s.realms.filter fun e => e.2 == r).length + (s.world.active.filter (· == r)).length +
    (held.filter fun f => f.2 == r).length

def shareCount (s : State) : Shared → Option Nat
  | .realm name => (s.realms.find? name).map (realmShares s)
  | .var name =>
    (s.world.host.vars.find? name).map fun v => (handlesHeld s.world.host).count v.identity
  | .engine name => (s.world.host.engines.find? name).map fun _ => 1

/-! ## Steps -/

/-- The configuration of a step. -/
private def configOf (text : Option String) : Except Failure EngineConfig :=
  match text with
  | some t => EngineConfig.ofJson t
  | none => .ok .standard

private def stepRealm (s : State) (name : String) (exports : ExportSpecs)
    (config : Option String) : Result × State :=
  match configOf config with
  | .error e => (.failed e, s)
  | .ok config =>
    let (w, n) := generateExports host .refusing exports s.world
    let (w, r) := host.createRealm config n w
    let s := { s with world := w }
    match r with
    | .ok r => (.realm (s.viewRealm r), { s with realms := s.realms.put name r })
    | .error e => (.failed e, s)

private def stepExtract (s : State) (r : RealmRef) (v : Value Callback) : Result × State :=
  let (w, result) := s.world.withContext r (Machine.stack {}) fun context stack w =>
    match v.extract (host.crossing context r stack) w with
    | (w, .ok x) => (w, .ok (view (w.heap context) x))
    | (w, .error e) => (w, .error e)
  let s := { s with world := w }
  match result with
  | .ok x => (.raw x, s)
  | .error e => (.failed e, s)

/-- Sends a raw value out and back in. -/
private def roundTrip (c : Crossing Callback Memory) (raw : RawSpec)
    (w : World Callback Memory) :
    World Callback Memory × Except Failure (RawView × Value Callback × RawView × Bool) :=
  match c.run (raw.make c.evaluator) w with
  | (w, .returned x) =>
    let shown := view (w.heap c.context) x
    match c.toValue x w with
    | (w, .error e) => (w, .error e)
    | (w, .ok v) =>
      match v.extract c w with
      | (w, .error e) => (w, .error e)
      | (w, .ok y) => (w, .ok (shown, v, view (w.heap c.context) y, x.sameValue y))
  | (w, _) => (w, .error .scriptThrew)

private def stepMarshal (s : State) (r : RealmRef) (raw : RawSpec) (name : Option String) :
    Result × State :=
  let (w, result) := s.world.withContext r (Machine.stack {}) fun context stack w =>
    roundTrip (host.crossing context r stack) raw w
  let s := { s with world := w }
  match result with
  | .ok (shown, v, back, same) =>
    (.marshaled shown (appearance v) back same, s.setVar name v)
  | .error e => (.failed e, s)

private def stepDrop (s : State) : Shared → Result × State
  | .realm name =>
    (.bool (s.realms.find? name).isSome, { s with realms := s.realms.erase name })
  | .var name =>
    (.bool (s.world.host.vars.find? name).isSome,
      s.remember fun m => { m with vars := m.vars.erase name })
  | .engine name =>
    (.bool (s.world.host.engines.find? name).isSome,
      s.remember fun m => { m with engines := m.engines.erase name })

private def capturedRealm (v : Value Callback) : Option RealmRef :=
  match v.function? with
  | some (.captured r _) => some r
  | _ => none

/-- Follows a step, or says why it is refused. -/
def follow (s : State) : Step → Except String (Result × State)
  | .engine name exports config =>
    match configOf config with
    | .ok c =>
      .ok (.engineMade, s.remember fun m => { m with engines := m.engines.put name ⟨c, exports⟩ })
    | .error e => .ok (.failed e, s)
  | .run engine source name =>
    match s.world.host.engines.find? engine with
    | some e => .ok (s.concludeValue name (host.run e source s.world))
    | none => .error ("no engine " ++ engine)
  | .call f arguments name => do
    let (f, s) ← s.make f
    let (vs, s) ← s.makeAll arguments
    match f.function? with
    | some f => .ok (s.concludeValue name (host.call f vs s.world))
    | none => .ok (s.concludeValue name (s.world, .ok .undefined))
  | .realm name exports config => .ok (stepRealm s name exports config)
  | .textRealm name backend =>
    let (r, w) := s.world.addRealm (backendNamed backend) (.text "state") default
    let s := { s with world := w, realms := s.realms.put name r }
    .ok (.realm (s.viewRealm r), s)
  | .describeRealm name => do
    let r ← s.realm name
    .ok (.realm (s.viewRealm r), s)
  | .register name f => do
    let r ← s.realm name
    let (k, w) := s.world.register r f
    .ok (.key k, { s with world := w })
  | .native name slot => do
    let r ← s.realm name
    .ok (.bool ((s.world.realm r).native? (UInt32.ofNat slot)).isSome, s)
  | .invoke name slot arguments => do
    let r ← s.realm name
    let (vs, s) ← s.makeAll arguments
    let (w, c) := host.invoke r (UInt32.ofNat slot) vs s.world
    let s := { s with world := w }
    match c with
    | .returned v => .ok (.returned (appearance v), s)
    | .thrown message => .ok (.thrown message, s)
  | .execute name source varName => do
    let r ← s.realm name
    .ok (s.concludeValue varName (host.execute r source s.world))
  | .enter name guard => do
    let r ← s.realm name
    let (g, w) := s.world.enter r
    let w :=
      match s.guards.find? guard with
      | some old => w.leave old
      | none => w
    let s := { s with world := w, guards := s.guards.put guard g }
    .ok (s.stack, s)
  | .leave guard =>
    match s.guards.find? guard with
    | some g =>
      let s := { s with world := s.world.leave g, guards := s.guards.erase guard }
      .ok (s.stack, s)
    | none => .error ("no guard " ++ guard)
  | .active => .ok (s.stack, s)
  | .find id =>
    if id < 4294967296 then
      .ok (.found ((s.world.findActive? (UInt32.ofNat id)).map s.world.idOf), s)
    else .ok (.found none, s)
  | .share what => .ok (.optionalCount (shareCount s what), s)
  | .sameRealm a b => do
    let a ← s.realm a
    let b ← s.realm b
    .ok (.bool (a == b), s)
  | .functionRealm f => do
    let (f, s) ← s.make f
    .ok (.realmId ((capturedRealm f).map s.world.idOf), s)
  | .adopt f name => do
    let (f, s) ← s.make f
    match capturedRealm f with
    | some r => .ok (.realm (s.viewRealm r), { s with realms := s.realms.put name r })
    | none => .error "not a function of a script realm"
  | .extract name v => do
    let r ← s.realm name
    let (v, s) ← s.make v
    .ok (stepExtract s r v)
  | .marshal name raw varName => do
    let r ← s.realm name
    .ok (stepMarshal s r raw varName)
  | .set name v => do
    let (v, s) ← s.make v
    .ok (.none, s.setVar (some name) v)
  | .show v => do
    let (v, s) ← s.make v
    .ok (.value (appearance v), s)
  | .drop what => .ok (stepDrop s what)
  | .collected =>
    .ok (.collected s.world.host.collected.reverse, s.remember fun m => { m with collected := [] })
  | .calls => .ok (.count s.world.host.calls, s)

/-- The result of a step with the records of what happened during it. -/
structure Answer where
  result : Result
  log : List Event

/-- Follows one step. -/
def answerStep (s : State) (x : Step) : Answer × State :=
  let s := { s with world := { s.world with log := [] } }
  match follow s x with
  | .ok (r, s) => (⟨r, s.world.log.reverse⟩, s)
  | .error message => (⟨.refused message, []⟩, s)

/-- Follows all steps of a session. -/
def answers : List Step → State → List Answer
  | [], _ => []
  | x :: rest, s =>
    let (a, s) := answerStep s x
    a :: answers rest s

end ScriptHost.Session
