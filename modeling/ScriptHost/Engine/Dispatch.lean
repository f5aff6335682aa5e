import ScriptHost.Engine.Calls

/-!
# Nesting

A callback can call scripts, which can call callbacks, and so on.  `dispatcher n`
answers host calls that nest at most `n` deep; deeper ones are refused the way a
call stack refuses to grow.  It is the one whose probe does nothing.
-/

namespace ScriptHost

variable [Machine] {φ γ σ : Type}

/-- Answers host calls down to a nesting depth, with a probe in front of each step of a
callback. -/
def probedDispatcher (probe : World φ σ → World φ σ) (host : Host φ γ σ) : Nat → Dispatcher φ σ
  | 0 => fun _ _ w => (w, .tooDeep)
  | n + 1 => fun context call w =>
    answerProbed probe host (probedDispatcher probe host n) context call w

/-- Answers host calls down to a nesting depth. -/
def dispatcher (host : Host φ γ σ) : Nat → Dispatcher φ σ := probedDispatcher id host

@[simp] theorem dispatcher_zero (host : Host φ γ σ) (context : RealmRef)
    (call : Script.HostCall) (w : World φ σ) :
    dispatcher host 0 context call w = (w, .tooDeep) := rfl

@[simp] theorem dispatcher_succ (host : Host φ γ σ) (n : Nat) (context : RealmRef)
    (call : Script.HostCall) (w : World φ σ) :
    dispatcher host (n + 1) context call w = answer host (dispatcher host n) context call w := rfl

section Answers

variable {host : Host φ γ σ} {n : Nat} {context r : RealmRef} {call : Script.HostCall}
variable {w w₁ : World φ σ}

/-- A callback is invoked when the realm of a host call is active and the arguments have become
host values. -/
theorem dispatcher_of_converted {arguments : List (Value φ)}
    (hfound : w.findActive? call.key.realm = some r)
    (hvalues : Crossing.toValues ⟨dispatcher host n, context, r, call.stack⟩ call.arguments w =
      (w₁, .ok arguments)) :
    dispatcher host (n + 1) context call w =
      Crossing.reply ⟨dispatcher host n, context, r, call.stack⟩
        (w₁.invoke host (services host (dispatcher host n) call.stack) r call.key.slot arguments).2
        (w₁.invoke host (services host (dispatcher host n) call.stack) r call.key.slot
          arguments).1 := by
  rw [dispatcher_succ, answer, answerProbed, answerWith]
  simp only [hfound, hvalues]
  rfl

end Answers

/-! ## What the host can do by itself -/

namespace Host

variable (host : Host φ γ σ)

/-- Runs a source on an engine. -/
def run (engine : Engine γ) (source : String) (w : World φ σ) :
    World φ σ × Except Failure (Value φ) :=
  runEngine host (dispatcher host Machine.nesting) (Machine.stack {}) engine source w

/-- Calls a function. -/
def call (f : FunctionRef) (arguments : List (Value φ)) (w : World φ σ) :
    World φ σ × Except Failure (Value φ) :=
  callFunction host (dispatcher host Machine.nesting) (Machine.stack {}) f arguments w

/-- Makes a realm. -/
def createRealm (config : EngineConfig) (n : Namespace φ) (w : World φ σ) :
    World φ σ × Except Failure RealmRef :=
  ScriptHost.createRealm (dispatcher host Machine.nesting) (Machine.stack {}) config n w

/-- Runs a source in a realm. -/
def execute (r : RealmRef) (source : String) (w : World φ σ) :
    World φ σ × Except Failure (Value φ) :=
  ScriptHost.execute (dispatcher host Machine.nesting) (Machine.stack {}) r source w

/-- Calls the callback in a slot of a realm. -/
def invoke (r : RealmRef) (slot : UInt32) (arguments : List (Value φ)) (w : World φ σ) :
    World φ σ × Completion φ :=
  w.invoke host (services host (dispatcher host Machine.nesting) (Machine.stack {})) r slot
    arguments

/-- How values cross into a realm whose context is given. -/
def crossing (context r : RealmRef) (stack : Script.Stack) : Crossing φ σ :=
  ⟨dispatcher host Machine.nesting, context, r, stack⟩

end Host

end ScriptHost
