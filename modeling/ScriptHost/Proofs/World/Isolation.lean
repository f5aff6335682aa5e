import ScriptHost.Proofs.World.Mirror.Calls
import ScriptHost.Proofs.World.Straight

/-!
# Runs are isolated

A run after any history is compared with the same run as the first thing that happens.  The
realms that it makes come later in the order of creation, and have other identifiers; so do
the values that it makes, and the host may remember something else.  `Pairing.later` is the
pairing by which all this does not count.

Callbacks and generators are pure if they cannot tell either: called alike, they go on alike.
A function of an older realm would lead out of the run, so neither of them holds one, and then
there is nothing through which what happened before could be noticed, or be changed.
-/

namespace ScriptHost

variable {φ γ σ : Type}

/-! ## What does not count -/

/-- Realms come later and have identifiers that many steps further on; which identities values
have and what the hosts remember is left open.  Some callbacks and generators take part. -/
def Pairing.later (base : Nat) (steps : UInt32) (callback : φ → Prop) (generator : γ → Prop) :
    Pairing φ γ σ σ where
  base := base
  whole := False
  rename i := i + steps
  ids _ _ := True
  memory _ _ := True
  live := True
  callback := callback
  generator := generator
  injective _ _ h := (UInt32.add_left_inj steps).mp h
  rename_succ i := by rw [UInt32.add_assoc, UInt32.add_comm 1, ← UInt32.add_assoc]
  ids_succ _ := trivial
  rename_eq := False.elim

/-- The callbacks and the generators depend on nothing but their arguments: neither on what the
host remembers, nor on which realms there are or how many are active.  They hold no functions of
realms, and lead to no other callbacks and generators. -/
def Host.Pure (callback : φ → Prop) (generator : γ → Prop) (host : Host φ γ σ) : Prop :=
  ∀ base steps, (Pairing.later base steps callback generator).Hosts host host

variable {callback : φ → Prop} {generator : γ → Prop} {host : Host φ γ σ} {w : World φ σ}

/-! ## Two worlds -/

section

variable [Machine] [LawfulMachine]

end

/-- The first argument of calls that correspond. -/
theorem Invocation.Pairs.argument {σ' : Type} {P : Pairing φ γ σ σ'} {n : Nat}
    {i i' : Invocation φ} (h : i.Pairs P n i') : (i.argument 0).Pairs P n (i'.argument 0) := by
  obtain ⟨r, arguments⟩ := i
  obtain ⟨r', arguments'⟩ := i'
  cases h.arguments with
  | nil => exact .undefined
  | cons hv _ => exact hv

end ScriptHost
