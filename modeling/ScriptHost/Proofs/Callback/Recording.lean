import ScriptHost.Proofs.Callback.Stacks

/-!
# Hosts that record what they are called with

A recording host does what the host does, and puts down each call of a callback in front of what
the callback does.  What is put down says which callback was called, on what, from which realm,
and which realm was the innermost active one.

Everything a host remembers is seen by its callbacks, so the record is kept beside it, where
the callbacks of the host do not get at it.
-/

namespace ScriptHost

variable {φ γ σ τ : Type}

/-- A call of a callback, and which realm was the innermost active one. -/
structure Invoked (φ : Type) where
  callback : φ
  realm : RealmRef
  arguments : List (Value φ)
  current : Option UInt32

/-- The steps, for a host that remembers more than they are about. -/
def Body.widen : Body φ γ σ → Body φ γ (σ × τ)
  | .done => .done
  | .answer v next => .answer v next.widen
  | .fail message next => .fail message next.widen
  | .call f arguments next => .call f arguments fun x => (next x).widen
  | .run engine source next => .run engine source fun x => (next x).widen
  | .look next => .look fun v => (next v).widen
  | .recall next => .recall fun s => (next s.1).widen
  | .remember f next => .remember (fun s => (f s.1, s.2)) next.widen
  | .make f next =>
    .make (fun i s => ⟨(f i s.1).value, (f i s.1).taken, ((f i s.1).host, s.2)⟩)
      fun v => (next v).widen
  | .enter r next => .enter r fun g => (next g).widen
  | .leave g next => .leave g next.widen

/-- The host, with every call of a callback remembered in front of what the callback does. -/
def Host.recording (host : Host φ γ σ) : Host φ γ (σ × List (Invoked φ)) where
  behave f i := .look fun v =>
    .remember (fun s => (s.1, s.2 ++ [⟨f, i.realm, i.arguments, v.current⟩]))
      (host.behave f i).widen
  prepare g := (host.prepare g).widen
  generate g i s :=
    ⟨(host.generate g i s.1).exports, (host.generate g i s.1).taken,
      ((host.generate g i s.1).host, s.2)⟩
  act backend arguments := (host.act backend arguments).widen
  outcome c s := host.outcome c s.1

/-- Callbacks that give back their guards do so if their hosts remember more. -/
theorem Body.Balanced.widen {held : List World.Guard} {b : Body φ γ σ} (h : b.Balanced held) :
    (b.widen : Body φ γ (σ × τ)).Balanced held := by
  induction b generalizing held with
  | done => exact h
  | answer v next ih => exact ih h
  | fail message next ih => exact ih h
  | call f arguments next ih => exact fun x => ih x (h x)
  | run engine source next ih => exact fun x => ih x (h x)
  | look next ih => exact fun v => ih v (h v)
  | «recall» next ih => exact fun s => ih s.1 (h s.1)
  | remember f next ih => exact ih h
  | make f next ih => exact fun v => ih v (h v)
  | enter r next ih => exact fun g => ih g (h g)
  | leave g next ih =>
      obtain ⟨rest, rfl, hrest⟩ := h
      exact ⟨rest, rfl, ih hrest⟩

theorem Host.Balanced.recording {host : Host φ γ σ} (h : host.Balanced) :
    host.recording.Balanced := by
  intro i b hb
  cases hb with
  | callback f i => exact fun _ => (h (.callback f i)).widen
  | generator g => exact (h (.generator g)).widen
  | function backend arguments => exact (h (.function backend arguments)).widen

end ScriptHost
