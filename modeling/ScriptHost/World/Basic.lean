import ScriptHost.Script.Standard
import ScriptHost.Value.Builder
import ScriptHost.World.Event

/-!
# The world of a host

A host sees realms.  A realm has an identifier, a table of the host functions
that were handed to it, and the state of its backend: for a script realm that is
a heap.  Beside the realms the world holds two stacks.  The active stack lists
the realms that host code runs in, the innermost first; a host function can only
be reached through it.  The live stack lists the realms whose engine has been
entered; an engine that was entered once is not entered again, its context is
used as it is.

`φ` names the host's callbacks and `σ` is what the host itself remembers.
-/

namespace ScriptHost

/-- What a backend keeps for a realm. -/
inductive RealmState where
  | script (heap : Script.Heap)
  | text (s : String)

structure Realm (φ : Type) where
  id : UInt32
  backend : String
  /-- The callbacks by slot. -/
  natives : Array φ
  state : RealmState
  /-- The stack of its engine. -/
  stack : Script.Stack

namespace Realm

variable {φ : Type}

/-- Adds a callback under the next slot. -/
def register (r : Realm φ) (f : φ) : Realm φ := { r with natives := r.natives.push f }

/-- The callback in a slot. -/
def native? (r : Realm φ) (slot : UInt32) : Option φ := r.natives[slot.toNat]?

def heap (r : Realm φ) : Script.Heap :=
  match r.state with
  | .script h => h
  | .text _ => .standard

def isScript (r : Realm φ) : Bool :=
  match r.state with
  | .script _ => true
  | .text _ => false

def text? (r : Realm φ) : Option String :=
  match r.state with
  | .script _ => none
  | .text s => some s

def debugTree (r : Realm φ) : DebugTree :=
  .record "RunContext"
    [("id", .leaf r.id.toNat.repr), ("backend", .leaf (Text.quote r.backend)),
      ("natives", .leaf r.natives.size.repr)] true

end Realm

instance {φ : Type} : Inhabited (Realm φ) := ⟨⟨0, "", #[], .text "", default⟩⟩

structure World (φ σ : Type) where
  realms : Array (Realm φ)
  /-- The realms that host code runs in, the innermost first. -/
  active : List RealmRef
  /-- The realms whose engine has been entered, the innermost first. -/
  live : List RealmRef
  nextRealm : UInt32
  nextValue : ValueId
  /-- What happened, the latest first. -/
  log : List Event
  host : σ

namespace World

variable {φ σ : Type}

/-- A world without realms. -/
def start (host : σ) : World φ σ := ⟨#[], [], [], 1, 0, [], host⟩

/-! ## Realms -/

def realm (w : World φ σ) (r : RealmRef) : Realm φ := w.realms.getD r default

/-- The identifier of a realm. -/
def idOf (w : World φ σ) (r : RealmRef) : UInt32 := (w.realm r).id

def modifyRealm (w : World φ σ) (r : RealmRef) (f : Realm φ → Realm φ) : World φ σ :=
  { w with realms := w.realms.modify r f }

/-- Makes a realm with the next identifier. -/
def addRealm (w : World φ σ) (backend : String) (state : RealmState)
    (stack : Script.Stack) :
    RealmRef × World φ σ :=
  (w.realms.size,
    { w with
      realms := w.realms.push ⟨w.nextRealm, backend, #[], state, stack⟩
      nextRealm := w.nextRealm + 1 })

/-- Registers a callback in a realm. -/
def register (w : World φ σ) (r : RealmRef) (f : φ) : NativeKey × World φ σ :=
  (⟨w.idOf r, UInt32.ofNat (w.realm r).natives.size⟩, w.modifyRealm r fun x => x.register f)

def heap (w : World φ σ) (r : RealmRef) : Script.Heap := (w.realm r).heap

def setHeap (w : World φ σ) (r : RealmRef) (h : Script.Heap) : World φ σ :=
  w.modifyRealm r fun x => { x with state := .script h }

/-! ## Records -/

def record (w : World φ σ) (e : Event) : World φ σ := { w with log := e :: w.log }

/-! ## Values -/

/-- The identity of a new value. -/
def freshValue (w : World φ σ) : ValueId × World φ σ :=
  (w.nextValue, { w with nextValue := w.nextValue + 1 })

def makeNumber (w : World φ σ) (x : Double) : World φ σ × Value φ :=
  let (id, w) := w.freshValue
  (w, .number id x)

def makeString (w : World φ σ) (s : String) : World φ σ × Value φ :=
  let (id, w) := w.freshValue
  (w, .string id s)

def makeFunction (w : World φ σ) (f : FunctionRef) : World φ σ × Value φ :=
  let (id, w) := w.freshValue
  (w, .function id f)

/-! ## The active stack -/

/-- What leaving a realm needs: how deep the stack was before it was entered. -/
structure Guard where
  depth : Nat
  deriving DecidableEq, Repr

def depth (w : World φ σ) : Nat := w.active.length

def current? (w : World φ σ) : Option RealmRef := w.active.head?

/-- Makes a realm the innermost one. -/
def enter (w : World φ σ) (r : RealmRef) : Guard × World φ σ :=
  (⟨w.active.length⟩, { w with active := r :: w.active })

/-- The bottom `n` entries of a stack. -/
def bottom (n : Nat) (stack : List RealmRef) : List RealmRef := stack.drop (stack.length - n)

/-- Takes everything off that lies at or above the entry of a guard. -/
def leave (w : World φ σ) (g : Guard) : World φ σ := { w with active := bottom g.depth w.active }

/-- The innermost active realm with an identifier. -/
def findActive? (w : World φ σ) (id : UInt32) : Option RealmRef :=
  w.active.find? fun r => w.idOf r == id

/-! ## The live stack -/

/-- The innermost live realm with an identifier. -/
def findLive? (w : World φ σ) (id : UInt32) : Option RealmRef :=
  w.live.find? fun r => w.idOf r == id

/-- The live context of a realm.  A realm that was never made has none. -/
def context? (w : World φ σ) (r : RealmRef) : Option RealmRef :=
  if r < w.realms.size then w.findLive? (w.idOf r) else none

/-- Why a realm of another backend runs no script. -/
def otherBackend (r : Realm φ) : Failure :=
  .script
    (.execution ("realm " ++ r.id.toNat.repr ++ " belongs to the " ++ r.backend ++ " backend"))

/-- Runs something with the context of a realm and the stack it has there.  If its
engine has been entered already the live context is used, on the stack as it is;
otherwise the engine is entered, with a stack of its own, and left. -/
def withContext {α : Type} (w : World φ σ) (r : RealmRef) (left : Script.Stack)
    (f : RealmRef → Script.Stack → World φ σ → World φ σ × Except Failure α) :
    World φ σ × Except Failure α :=
  match w.context? r with
  | some context => f context left w
  | none =>
    if (w.realm r).isScript then
      let (w, result) := f r (w.realm r).stack { w with live := r :: w.live }
      ({ w with live := w.live.tail }, result)
    else (w, .error (otherBackend (w.realm r)))

end World

end ScriptHost
