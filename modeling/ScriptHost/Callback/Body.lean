import ScriptHost.World.Basic

/-!
# Callbacks

A host callback is given its arguments and the realm it was called from.  What
it then does is a tree of steps: it may record results and errors in any order
and any number, call functions, run sources on engines, look at what it was
called with and at the active stack, and use what the host remembers.

Of all that it records, the last error counts; if there is none, the last
result; if there is none either, the callback answers undefined.

Generators and the functions of other backends are code of the host as well.
They take the same steps, and then make something of what the host remembers
and of what they have recorded.
-/

namespace ScriptHost

/-- What runs are made with: the settings, and the name of the generator of the
exports. -/
structure Engine (γ : Type) where
  config : EngineConfig
  generator : γ

/-- What a callback is called with. -/
structure Invocation (φ : Type) where
  realm : RealmRef
  arguments : List (Value φ)

/-- An argument, undefined past the end. -/
def Invocation.argument {φ : Type} (i : Invocation φ) (n : Nat) : Value φ :=
  i.arguments.getD n .undefined

/-- What a callback can see. -/
structure View (φ : Type) where
  /-- The identifier of the realm it was called from. -/
  realm : UInt32
  /-- What it was called on. -/
  arguments : List (Value φ)
  /-- How many callbacks that realm has. -/
  natives : Nat
  depth : Nat
  /-- The identifier of the innermost active realm. -/
  current : Option UInt32

/-- A value that was made, the number of identities that it took, and what the
host remembers now. -/
structure Made (φ σ : Type) where
  value : Value φ
  taken : Nat
  host : σ

/-- The steps of a callback. -/
inductive Body (φ γ σ : Type) where
  | done
  /-- Records a result. -/
  | answer (v : Value φ) (next : Body φ γ σ)
  /-- Records an error. -/
  | fail (message : String) (next : Body φ γ σ)
  | call (f : FunctionRef) (arguments : List (Value φ))
      (next : Except Failure (Value φ) → Body φ γ σ)
  | run (engine : Engine γ) (source : String) (next : Except Failure (Value φ) → Body φ γ σ)
  | look (next : View φ → Body φ γ σ)
  /-- Reads what the host remembers. -/
  | recall (next : σ → Body φ γ σ)
  /-- Changes what the host remembers. -/
  | remember (f : σ → σ) (next : Body φ γ σ)
  /-- Makes a value, with a number of new identities from a given one on. -/
  | make (f : ValueId → σ → Made φ σ) (next : Value φ → Body φ γ σ)
  | enter (realm : RealmRef) (next : World.Guard → Body φ γ σ)
  | leave (g : World.Guard) (next : Body φ γ σ)

/-- How a callback ends. -/
inductive Completion (φ : Type) where
  | returned (v : Value φ)
  | thrown (message : String)

/-- What a callback has recorded so far. -/
structure Recorded (φ : Type) where
  result : Option (Value φ) := none
  error : Option String := none

/-- What a callback does, and what it is told in return. -/
inductive Deed (φ γ : Type) where
  /-- Records a result. -/
  | answered (v : Value φ)
  /-- Records an error. -/
  | failed (message : String)
  | called (f : FunctionRef) (arguments : List (Value φ)) (result : Except Failure (Value φ))
  | ran (engine : Engine γ) (source : String) (result : Except Failure (Value φ))
  | looked (view : View φ)
  /-- Uses what the host remembers, or changes the active stack. -/
  | other

namespace Recorded

variable {φ γ : Type}

/-- An error counts more than any result. -/
def completion (r : Recorded φ) : Completion φ :=
  match r.error with
  | some message => .thrown message
  | none => .returned (r.result.getD .undefined)

/-- What is recorded after one more deed. -/
def note (r : Recorded φ) : Deed φ γ → Recorded φ
  | .answered v => { r with result := some v }
  | .failed message => { r with error := some message }
  | _ => r

/-- What is recorded after more deeds. -/
def after (r : Recorded φ) (deeds : List (Deed φ γ)) : Recorded φ := deeds.foldl note r

end Recorded

/-! ## Hosts -/

/-- Exports that were generated, the number of identities that they took, and what
the host remembers now. -/
structure Generated (φ σ : Type) where
  exports : Namespace φ
  taken : Nat
  host : σ

/-- What the caller of a function gets for the way that its steps ended, if its errors are
like those of scripts. -/
def Completion.result {φ : Type} : Completion φ → Except Failure (Value φ)
  | .returned v => .ok v
  | .thrown message => .error (.script (.exception message))

/-- What a host is: how its callbacks behave, what its generators export, and what its functions
of other backends do. -/
structure Host (φ γ σ : Type) where
  behave : φ → Invocation φ → Body φ γ σ
  /-- The steps that a generator takes before it exports anything.  What it learns it has the
  host remember. -/
  prepare : γ → Body φ γ σ := fun _ => .done
  /-- The exports of a run, from the next value's identity and
  what the host remembers. -/
  generate : γ → ValueId → σ → Generated φ σ
  /-- The steps of a function of another backend that is called on arguments. -/
  act : String → List (Value φ) → Body φ γ σ := fun _ _ => .done
  /-- What its caller gets, from the way these end and what the host remembers. -/
  outcome : Completion φ → σ → Except Failure (Value φ) := fun c _ => c.result

/-- How the calls and runs of a callback are carried out. -/
structure Services (φ γ σ : Type) where
  call : FunctionRef → List (Value φ) → World φ σ → World φ σ × Except Failure (Value φ)
  run : Engine γ → String → World φ σ → World φ σ × Except Failure (Value φ)

variable {φ γ σ : Type}

/-! ## Carrying out steps -/

/-- What host code sees: a callback its invocation, other code of the host none. -/
def World.view (w : World φ σ) (i : Option (Invocation φ)) : View φ where
  realm := i.elim 0 fun i => w.idOf i.realm
  arguments := i.elim [] Invocation.arguments
  natives := i.elim 0 fun i => (w.realm i.realm).natives.size
  depth := w.depth
  current := w.current?.map w.idOf

/-- Carries out the steps of a callback, and lists its deeds.  A probe is put in front of each
step, which changes the world that the callback is about to see. -/
def Body.trace (probe : World φ σ → World φ σ) (s : Services φ γ σ) (i : Option (Invocation φ)) :
    Body φ γ σ → World φ σ → World φ σ × List (Deed φ γ)
  | .done, w => (probe w, [])
  | .answer v next, w => (next.trace probe s i (probe w)).map id (.answered v :: ·)
  | .fail message next, w => (next.trace probe s i (probe w)).map id (.failed message :: ·)
  | .call f vs next, w =>
    let x := s.call f vs (probe w)
    ((next x.2).trace probe s i x.1).map id (.called f vs x.2 :: ·)
  | .run engine source next, w =>
    let x := s.run engine source (probe w)
    ((next x.2).trace probe s i x.1).map id (.ran engine source x.2 :: ·)
  | .look next, w =>
    let view := (probe w).view i
    ((next view).trace probe s i (probe w)).map id (.looked view :: ·)
  | .recall next, w => ((next (probe w).host).trace probe s i (probe w)).map id (.other :: ·)
  | .remember f next, w =>
    (next.trace probe s i { probe w with host := f (probe w).host }).map id (.other :: ·)
  | .make f next, w =>
    let w := probe w
    let m := f w.nextValue w.host
    ((next m.value).trace probe s i
      { w with nextValue := w.nextValue + m.taken, host := m.host }).map id (.other :: ·)
  | .enter realm next, w =>
    let x := (probe w).enter realm
    ((next x.1).trace probe s i x.2).map id (.other :: ·)
  | .leave g next, w => (next.trace probe s i ((probe w).leave g)).map id (.other :: ·)

namespace Body

variable (s : Services φ γ σ) (i : Option (Invocation φ)) (b : Body φ γ σ)

/-- The deeds of a callback, in order. -/
def deeds (w : World φ σ) : List (Deed φ γ) := (b.trace id s i w).2

/-- Carries out the steps of a callback, with a probe in front of each of them. -/
def probed (probe : World φ σ → World φ σ) (r : Recorded φ) (w : World φ σ) :
    World φ σ × Completion φ :=
  let x := b.trace probe s i w
  (x.1, (r.after x.2).completion)

/-- Carries out the steps of a callback. -/
def perform (r : Recorded φ) (w : World φ σ) : World φ σ × Completion φ := b.probed s i id r w

section Equations

variable {s i} {probe : World φ σ → World φ σ} {r : Recorded φ} {w : World φ σ}

theorem probed_done : (done : Body φ γ σ).probed s i probe r w = (probe w, r.completion) := rfl

theorem probed_answer {v : Value φ} {next : Body φ γ σ} :
    (answer v next).probed s i probe r w =
      next.probed s i probe { r with result := some v } (probe w) := rfl

theorem probed_fail {message : String} {next : Body φ γ σ} :
    (fail message next).probed s i probe r w =
      next.probed s i probe { r with error := some message } (probe w) := rfl

theorem probed_call {f : FunctionRef} {vs : List (Value φ)}
    {next : Except Failure (Value φ) → Body φ γ σ} :
    (call f vs next).probed s i probe r w =
      (next (s.call f vs (probe w)).2).probed s i probe r (s.call f vs (probe w)).1 := rfl

theorem probed_run {engine : Engine γ} {source : String}
    {next : Except Failure (Value φ) → Body φ γ σ} :
    (run engine source next).probed s i probe r w =
      (next (s.run engine source (probe w)).2).probed s i probe r
        (s.run engine source (probe w)).1 := rfl

theorem probed_look {next : View φ → Body φ γ σ} :
    (look next).probed s i probe r w =
      (next ((probe w).view i)).probed s i probe r (probe w) := rfl

theorem probed_recall {next : σ → Body φ γ σ} :
    («recall» next).probed s i probe r w = (next (probe w).host).probed s i probe r (probe w) := rfl

theorem probed_remember {f : σ → σ} {next : Body φ γ σ} :
    (remember f next).probed s i probe r w =
      next.probed s i probe r { probe w with host := f (probe w).host } := rfl

theorem probed_make {f : ValueId → σ → Made φ σ} {next : Value φ → Body φ γ σ} :
    (make f next).probed s i probe r w =
      (next (f (probe w).nextValue (probe w).host).value).probed s i probe r
        { probe w with
          nextValue := (probe w).nextValue + (f (probe w).nextValue (probe w).host).taken
          host := (f (probe w).nextValue (probe w).host).host } := rfl

theorem probed_enter {realm : RealmRef} {next : World.Guard → Body φ γ σ} :
    (enter realm next).probed s i probe r w =
      (next ((probe w).enter realm).1).probed s i probe r ((probe w).enter realm).2 := rfl

theorem probed_leave {g : World.Guard} {next : Body φ γ σ} :
    (leave g next).probed s i probe r w = next.probed s i probe r ((probe w).leave g) := rfl

end Equations

end Body

namespace World

/-- Why a slot without callback cannot be called. -/
def notRegistered (slot : UInt32) : String :=
  "native function " ++ slot.toNat.repr ++ " is not registered"

/-- Calls the callback in a slot of a realm, with a probe in front of each of its steps. -/
def invokeProbed (probe : World φ σ → World φ σ) (host : Host φ γ σ) (s : Services φ γ σ)
    (w : World φ σ) (r : RealmRef) (slot : UInt32) (arguments : List (Value φ)) :
    World φ σ × Completion φ :=
  match (w.realm r).native? slot with
  | none => (w.record (.unregistered (w.idOf r) slot), .thrown (notRegistered slot))
  | some f => (host.behave f ⟨r, arguments⟩).probed s (some ⟨r, arguments⟩) probe {} w

/-- Calls the callback in a slot of a realm. -/
def invoke (host : Host φ γ σ) (s : Services φ γ σ) (w : World φ σ) (r : RealmRef)
    (slot : UInt32) (arguments : List (Value φ)) : World φ σ × Completion φ :=
  w.invokeProbed id host s r slot arguments

/-- The callback in a slot is the one that runs. -/
theorem invoke_eq {host : Host φ γ σ} {w : World φ σ} {r : RealmRef} {slot : UInt32} {f : φ}
    (hslot : (w.realm r).native? slot = some f) (s : Services φ γ σ)
    (arguments : List (Value φ)) :
    w.invoke host s r slot arguments =
      (host.behave f ⟨r, arguments⟩).perform s (some ⟨r, arguments⟩) {} w := by
  rw [invoke, invokeProbed, hslot]
  rfl

end World

end ScriptHost
