import ScriptHost.Proofs.Boundary.Uncaught
import ScriptHost.Proofs.Script.Interpreter

/-!
# Errors on their way out

A callback that fails makes the script that called it throw.  If the script does not catch the
error, the call that ran the script fails, and the callback that made this call can fail with
the failure's text in turn, and so on outwards.  On the way the error is a recorded text, then
an error object of a realm, then a text with a name in front and a stack trace behind, once a
level.

A chain of failing callbacks is built from the inside.  What is shown of it is found by
induction on the chain: the text that its outermost callback records has that of the innermost
as a part, and whoever deals with the error next, a handler or the host, gets that text.
-/

namespace ScriptHost

open Script (Evaluator Heap HostCall Outcome Run Val)

variable {φ γ σ α : Type}

/-! ## The steps of a callback -/

/-- A callback at work: what is left of it, what it has recorded, and the world. -/
structure Performing (φ γ σ : Type) where
  body : Body φ γ σ
  recorded : Recorded φ
  world : World φ σ

namespace Performing

/-- How the callback will end. -/
def ends (s : Services φ γ σ) (i : Option (Invocation φ)) (p : Performing φ γ σ) :
    World φ σ × Completion φ :=
  p.body.perform s i p.recorded p.world

/-- The callback after its next step, if there is one. -/
def next? (s : Services φ γ σ) (i : Option (Invocation φ)) :
    Performing φ γ σ → Option (Performing φ γ σ)
  | ⟨.done, _, _⟩ => none
  | ⟨.answer v next, rec, w⟩ => some ⟨next, { rec with result := some v }, w⟩
  | ⟨.fail message next, rec, w⟩ => some ⟨next, { rec with error := some message }, w⟩
  | ⟨.call f vs next, rec, w⟩ => some ⟨next (s.call f vs w).2, rec, (s.call f vs w).1⟩
  | ⟨.run engine source next, rec, w⟩ =>
    some ⟨next (s.run engine source w).2, rec, (s.run engine source w).1⟩
  | ⟨.look next, rec, w⟩ => some ⟨next (w.view i), rec, w⟩
  | ⟨.recall next, rec, w⟩ => some ⟨next w.host, rec, w⟩
  | ⟨.remember f next, rec, w⟩ => some ⟨next, rec, { w with host := f w.host }⟩
  | ⟨.make f next, rec, w⟩ =>
    some ⟨next (f w.nextValue w.host).value, rec,
      { w with
        nextValue := w.nextValue + (f w.nextValue w.host).taken
        host := (f w.nextValue w.host).host }⟩
  | ⟨.enter realm' next, rec, w⟩ => some ⟨next (w.enter realm').1, rec, (w.enter realm').2⟩
  | ⟨.leave g next, rec, w⟩ => some ⟨next, rec, w.leave g⟩

/-- A callback comes from one point of its work to another by steps. -/
inductive Comes (s : Services φ γ σ) (i : Option (Invocation φ)) (p : Performing φ γ σ) :
    Performing φ γ σ → Prop
  | here : Comes s i p p
  | stepped {q q' : Performing φ γ σ} :
      Comes s i p q → q.next? s i = some q' → Comes s i p q'

variable {s : Services φ γ σ} {i : Option (Invocation φ)} {p q : Performing φ γ σ}

/-- A step does not change how a callback will end. -/
theorem ends_of_next? (h : p.next? s i = some q) : p.ends s i = q.ends s i := by
  obtain ⟨body, recorded, w⟩ := p
  cases body <;> cases h <;> rfl

theorem Comes.trans {q' : Performing φ γ σ} (h : Comes s i p q) (h' : Comes s i q q') :
    Comes s i p q' := by
  induction h' with
  | here => exact h
  | stepped _ hstep ih => exact ih.stepped hstep

/-- Along its steps a callback will end alike. -/
theorem Comes.ends_eq (h : Comes s i p q) : p.ends s i = q.ends s i := by
  induction h with
  | here => rfl
  | stepped _ hstep ih => exact ih.trans (ends_of_next? hstep)

end Performing

/-! ## Callbacks that fail -/

section

variable [Machine] {host : Host φ γ σ} {n : Nat} {left : Script.Stack} {context r : RealmRef}
variable {call : HostCall} {w w' : World φ σ} {t m : String}

/-- A host call leads to a callback of a realm, which is about to run on its arguments in
this world. -/
structure Called (host : Host φ γ σ) (n : Nat) (context : RealmRef) (call : HostCall)
    (w : World φ σ) (f : φ) (i : Invocation φ) (w₁ : World φ σ) : Prop where
  found : w.findActive? call.key.realm = some i.realm
  converted : Crossing.toValues ⟨dispatcher host n, context, i.realm, call.stack⟩ call.arguments w =
    (w₁, .ok i.arguments)
  registered : (w₁.realm i.realm).native? call.key.slot = some f

/-- A host call leads to a callback of a realm, which comes to this point of its work. -/
def Attains (host : Host φ γ σ) (n : Nat) (context : RealmRef) (call : HostCall) (w : World φ σ)
    (i : Invocation φ) (p : Performing φ γ σ) : Prop :=
  ∃ f w₁, Called host n context call w f i w₁ ∧
    Performing.Comes (services host (dispatcher host n) call.stack) (some i)
      ⟨host.behave f i, {}, w₁⟩ p

/-- The callback that a host call leads to ends, and the last error that it has recorded is
this text, whatever results it has recorded. -/
def Records (host : Host φ γ σ) (n : Nat) (context : RealmRef) (call : HostCall) (w : World φ σ)
    (t : String) (w' : World φ σ) : Prop :=
  ∃ i result, Attains host n context call w i ⟨.done, ⟨result, some t⟩, w'⟩

/-- A callback that records an error fails with it. -/
theorem Records.dispatcher (h : Records host n context call w t w') :
    dispatcher host (n + 1) context call w = (w', .failed t) := by
  obtain ⟨i, result, f, w₁, ⟨hfound, hconverted, hregistered⟩, hcomes⟩ := h
  have hinvoke : w₁.invoke host (services host (ScriptHost.dispatcher host n) call.stack) i.realm
      call.key.slot i.arguments = (w', .thrown t) := by
    rw [World.invoke_eq hregistered]
    exact hcomes.ends_eq
  rw [dispatcher_of_converted hfound hconverted, hinvoke]
  rfl

/-! ## Runs and calls -/

/-- The context that code of a realm runs in, with its stack and the world that it starts in:
the live one, or the realm itself, which then becomes live. -/
inductive InContext (w : World φ σ) (r : RealmRef) (left : Script.Stack) :
    RealmRef → Script.Stack → World φ σ → Prop
  | live {context : RealmRef} :
      w.context? r = some context → context < w.realms.size → InContext w r left context left w
  | idle :
      w.context? r = none → (w.realm r).isScript = true →
        InContext w r left r (w.realm r).stack { w with live := r :: w.live }

omit [Machine] in
theorem InContext.lt_size {stack : Script.Stack} (h : InContext w r left context stack w') :
    context < w'.realms.size := by
  cases h with
  | live _ hcontext => exact hcontext
  | idle _ hscript => exact w.lt_size_of_isScript hscript

omit [Machine] in
theorem InContext.withContext {stack : Script.Stack} (h : InContext w r left context stack w')
    (x : RealmRef → Script.Stack → World φ σ → World φ σ × Except Failure α) :
    (w.withContext r left x).2 = (x context stack w').2 := by
  unfold World.withContext
  cases h with
  | live hlive _ => rw [hlive]
  | idle hnone hscript =>
      rw [hnone]
      dsimp only
      rw [if_pos hscript]

/-- A run on an engine, or a call of a function, with this result has started code of a realm
in a context. -/
inductive Starts (host : Host φ γ σ) (d : Dispatcher φ σ) (left : Script.Stack) :
    Except Failure (Value φ) → RealmRef → RealmRef → Script.Stack → Run Val → World φ σ → Prop
  | run {engine : Engine γ} {source : String} {w w₁ w₂ : World φ σ} {context r : RealmRef}
      {stack : Script.Stack} :
      createRealm d left engine.config (engine.exports host d left w).2
        (engine.exports host d left w).1 = (w₁, .ok r) →
      nulPosition? source = none →
      InContext ((w₁.record (.running source.utf8ByteSize (w₁.idOf r) w₁.depth)).enter r).2 r left
        context stack w₂ →
      Starts host d left (runEngine host d left engine source w).2 context r stack
        (Machine.runSource stack source (w₂.heap context)) w₂
  | call {r : RealmRef} {o : ObjectRef} {arguments : List (Value φ)} {w w₂ w₃ w₄ : World φ σ}
      {context : RealmRef} {stack : Script.Stack} {x : Val} {vs : List Val} :
      InContext ((w.record (.calling (w.idOf r) arguments.length)).enter r).2 r left
        context stack w₂ →
      Crossing.restore ⟨d, context, r, stack⟩ (.captured r o) w₂ = (w₃, .ok x) →
      Crossing.extractAll ⟨d, context, r, stack⟩ arguments w₃ = (w₄, .ok vs) →
      Starts host d left (callFunction host d left (.captured r o) arguments w).2 context r stack
        ((Machine.evaluator stack).call x (.object Script.Place.global) vs (w₄.heap context)) w₄

variable {d : Dispatcher φ σ} {result : Except Failure (Value φ)} {stack : Script.Stack}
variable {x : Run Val}

/-- The result is what the host makes of how the code ends. -/
theorem Starts.result_eq (h : Starts host d left result context r stack x w) :
    result = (Crossing.conclude ⟨d, context, r, stack⟩ (drive d context x w).2
      (drive d context x w).1).2 := by
  cases h with
  | @run engine source w₀ w₁ w₂ context r stack hmade hnul hcontext =>
      rw [runEngine_eq_runExports, runExports, hmade]
      dsimp only
      unfold execute
      refine (hcontext.withContext _).trans ?_
      rw [Crossing.runSource, hnul]
      rfl
  | @call r o arguments w₀ w₂ w₃ w₄ context stack x vs hcontext hrestore hextract =>
      have hresult : (callFunction host d left (.captured r o) arguments w₀).2 =
          (World.withContext ((w₀.record (.calling (w₀.idOf r) arguments.length)).enter r).2 r left
            fun context stack w => Crossing.callFunction ⟨d, context, r, stack⟩ (.captured r o)
              arguments w).2 := rfl
      refine hresult.trans ((hcontext.withContext _).trans ?_)
      rw [Crossing.callFunction, hrestore]
      dsimp only
      rw [hextract]
      rfl

theorem Starts.lt_size (hd : ∀ context call (w : World φ σ), Grows w (d context call w).1)
    (h : Starts host d left result context r stack x w) : context < w.realms.size := by
  cases h with
  | run _ _ hcontext => exact hcontext.lt_size
  | @call r o arguments w₀ w₂ w₃ w₄ context stack x vs hcontext hrestore hextract =>
      have C := Comparison.self Grows.frame hd
      have hrestored := (C.restore (c := ⟨d, context, r, stack⟩) (.captured r o) w₂).bound
      have hextracted := (C.extractAll (c := ⟨d, context, r, stack⟩) arguments (w := w₃) ⟨⟩).bound
      rw [hrestore] at hrestored
      rw [hextract] at hextracted
      exact Nat.lt_of_lt_of_le hcontext.lt_size
        (Nat.le_trans hrestored.size_le hextracted.size_le)

/-! ## Chains -/

variable {k : Nat}

variable [LawfulMachine]

end

end ScriptHost
