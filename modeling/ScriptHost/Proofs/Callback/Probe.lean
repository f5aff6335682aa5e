import ScriptHost.Engine.Dispatch
import ScriptHost.Proofs.World.Engine

/-!
# Probes

What holds whenever a callback is running cannot be read off a result, since the
world that a callback saw is gone by then.  A probe makes it visible: it is put in
front of every step of every callback, at every depth of nesting, and may change the
world in any way it likes.  If a probe that leaves a world alone when some property
holds is never noticed, then the property holds whenever a callback is at work.

With the probe that does nothing steps are carried out as they are.
-/

namespace ScriptHost

variable {φ γ σ : Type}
variable {P : World φ σ → Prop} {Rel : World φ σ → World φ σ → Prop} {d d' : Dispatcher φ σ}

/-- Invoking a callback with and without a probe, if its steps do not notice the probe. -/
theorem Comparison.invoke (C : Comparison P Rel d d') {host : Host φ γ σ}
    {probe : World φ σ → World φ σ} {s s' : Services φ γ σ}
    (hperform : ∀ (f : φ) (i : Invocation φ) {w : World φ σ}, P w →
      Settles Rel w ((host.behave f i).perform s (some i) {} w)
        ((host.behave f i).probed s' (some i) probe {} w))
    (r : RealmRef) (slot : UInt32) (arguments : List (Value φ)) {w : World φ σ} (hw : P w) :
    Settles Rel w (w.invoke host s r slot arguments)
      (w.invokeProbed probe host s' r slot arguments) := by
  unfold World.invoke World.invokeProbed
  cases (w.realm r).native? slot with
  | none => exact ⟨rfl, C.frame.record w _⟩
  | some f => exact hperform f ⟨r, arguments⟩ hw

/-- If a probe is not noticed by any callback, it is not noticed by any host call. -/
theorem Comparison.answer [Machine] (C : Comparison P Rel d d') {host : Host φ γ σ}
    {probe : World φ σ → World φ σ}
    (hperform : ∀ (left : Script.Stack) (f : φ) (i : Invocation φ) {w : World φ σ}, P w →
      Settles Rel w ((host.behave f i).perform (ScriptHost.services host d left) (some i) {} w)
        ((host.behave f i).probed (ScriptHost.services host d' left) (some i) probe {} w))
    (context : RealmRef) (call : Script.HostCall) {w : World φ σ} (hw : P w) :
    Settles Rel w (ScriptHost.answer host d context call w)
      (answerProbed probe host d' context call w) := by
  unfold ScriptHost.answer answerProbed
  exact C.answerWith (fun r slot arguments _ hw =>
    C.invoke (hperform call.stack) r slot arguments hw) context call hw

end ScriptHost
