import ScriptHost.Proofs.World.History

/-!
# Nothing is lost without looking up

In a sound world of fewer than `2 ^ 32` realms the live context of a realm is the realm.  So a
call or a run comes out the same by a policy that takes the realm for its context wherever it is
live, at every depth of nesting, and what is shown of such a policy holds of the program.  All
that counts is that two policies agree about the stack.
-/

namespace ScriptHost

variable [Machine] [LawfulMachine] {φ γ σ : Type} {w : World φ σ} {p q : Policy}
variable {host : Host φ γ σ}

theorem straight_answers (hpq : q.stack = p.stack) (host : Host φ γ σ) (n : Nat) :
    Regime.roaming.Answers .any (.all : Knowledge φ γ σ) (dispatcherBy p host n)
      (dispatcherBy q host n) :=
  Regime.dispatcherBy_answers hpq host.honest_all (dispatcherBy_grows host)
    (fun n left f i w => Body.perform_grows
      (servicesBy_grow host (dispatcherBy_grows host n) left) _ (host.behave f i) {} w) n

theorem straight_serves (hpq : q.stack = p.stack) (host : Host φ γ σ) (n : Nat)
    (left : Script.Stack) :
    Regime.roaming.Serves .any (.all : Knowledge φ γ σ)
      (servicesBy p host (dispatcherBy p host n) left)
      (servicesBy q host (dispatcherBy q host n) left) :=
  (straight_answers hpq host n).servesBy hpq host.honest_all left

theorem callFunctionBy_of_stack_eq (hpq : q.stack = p.stack) (n : Nat) (left : Script.Stack)
    (f : FunctionRef) (arguments : List (Value φ)) (hw : w.Sound .any (.all : Knowledge φ γ σ))
    (hfew : (callFunctionBy p host (dispatcherBy p host n) left f arguments w).1.realms.size <
      2 ^ 32) :
    callFunctionBy q host (dispatcherBy q host n) left f arguments w =
      callFunctionBy p host (dispatcherBy p host n) left f arguments w :=
  ((straight_serves hpq host n left).call World.le_held_any (fun _ _ => World.le_held_any) hw
    hfew).same

end ScriptHost
