import ScriptHost.Proofs.Boundary.Copied
import ScriptHost.Proofs.Boundary.RoundTrip
import ScriptHost.Proofs.Boundary.Uncaught

/-!
# Script values that go out of a realm and in again

A callback that ends with its first argument is an echo: a script value is classified on its
way to the host, and the host value that it became goes straight back into the realm.  What
the host can hold comes back as the value that it was, by the equality that tells the two
zeros apart and finds "not a number" equal to itself.  A string that is not well formed comes
back repaired, and everything that the host has no value for comes back as null.

Only the way out can run code of the realm, and only for strings that are not well formed: they
are made well formed, which changes nothing that is there.  The way in runs nothing, because no
object comes out of a realm that would have to be realised again.  Hence the second half of the
statement: what has come back once comes back as it is ever after.

Strings are all that can be lost.  Making one well formed can use up the stack or the memory, and
a string that comes back has to be made anew.  The call then fails with an error that says so.
-/

namespace ScriptHost

open Script (Evaluator Heap Val)

variable {φ γ σ : Type}

namespace Script

/-! ## What comes back -/

/-- The values that a host can hold: numbers, strings that are well formed, functions,
undefined and null. -/
inductive Val.Kept (h : Heap) : Val → Prop
  | int (n : Int32) : Kept h (.int n)
  | float (x : Double) : Kept h (.float x)
  | string {s : Units} : (∀ i, s.unpaired i = false) → Kept h (.string s)
  | function {o : ObjectRef} : h.isCallable (.object o) = true → Kept h (.object o)
  | undefined : Kept h .undefined
  | null : Kept h .null

variable {h h' : Heap} {x : Val}

end Script

/-! ## The way out and the way in -/

/-- A realm is left as it is, but for new objects. -/
structure World.Adds (r : RealmRef) (w w' : World φ σ) : Prop where
  later : w.Later w'
  extended : (w.heap r).Extended (w'.heap r)

theorem World.Adds.refl (r : RealmRef) (w : World φ σ) : w.Adds r w := ⟨.refl w, .refl _⟩

theorem World.Adds.trans {r : RealmRef} {w w' w'' : World φ σ} (h : w.Adds r w')
    (h' : w'.Adds r w'') : w.Adds r w'' :=
  ⟨h.later.trans h'.later, h.extended.trans h'.extended⟩

/-- Nothing changes but what values are numbered from. -/
theorem World.Adds.value (r : RealmRef) (w : World φ σ) (k : ValueId) :
    w.Adds r { w with nextValue := k } :=
  ⟨.of_realms_eq rfl rfl List.suffix_rfl, .refl _⟩

variable {r : RealmRef} {stack : Script.Stack} {w : World φ σ} {x : Val}

/-- Only new objects are in the realm after code that leaves everything else alone. -/
theorem World.Adds.setHeap (hr : r < w.realms.size) {h : Heap} (hx : (w.heap r).Extended h) :
    w.Adds r (w.setHeap r h) := by
  refine ⟨.setHeap hr hx.later, ?_⟩
  rw [w.heap_setHeap_self hr]
  exact hx

/-- A callback ends with the first of its arguments, whatever else it does. -/
def Host.ReturnsFirst (host : Host φ γ σ) (n : Nat) (f : φ) : Prop :=
  ∀ left r v vs w, ∃ w', (host.behave f ⟨r, v :: vs⟩).perform
    (services host (dispatcher host n) left) (some ⟨r, v :: vs⟩) {} w = (w', .returned v)

/-- A host function of a realm leads to a callback that ends with its first argument, and the
realm is active. -/
structure Host.Echoes (host : Host φ γ σ) (n : Nat) (r : RealmRef) (w : World φ σ)
    (key : NativeKey) : Prop where
  exported : ∃ o, (w.heap r).native? o = some key
  active : w.findActive? key.realm = some r
  callback : ∃ f, (w.realm r).native? key.slot = some f ∧ host.ReturnsFirst n f

variable {host : Host φ γ σ} {n : Nat} {key : NativeKey} {xs : List Val}

/-- A heap that is put back where it was is the same for everything that is asked here. -/
theorem Host.Echoes.setHeap (hr : r < w.realms.size) (he : host.Echoes n r w key) :
    host.Echoes n r (w.setHeap r (w.heap r)) key := by
  obtain ⟨f, hslot, hreturns⟩ := he.callback
  have hid (s : RealmRef) : (w.setHeap r (w.heap r)).idOf s = w.idOf s := w.idOf_setHeap r s _
  refine ⟨?_, ?_, f, ?_, hreturns⟩
  · rw [w.heap_setHeap_self hr]
    exact he.exported
  · have hactive := he.active
    unfold World.findActive? at hactive ⊢
    simp only [hid]
    exact hactive
  · rw [Realm.native?, w.natives_setHeap]
    exact hslot

/-- Whether a reply hands a string back. -/
def Script.Reply.gives (s : Units) : Script.Reply → Bool
  | .returned (.string t) => t == s
  | _ => false

/-- Whether a reply throws an error with a message. -/
def Script.Reply.fails (message : String) : Script.Reply → Bool
  | .failed m => m == message
  | _ => false

end ScriptHost
