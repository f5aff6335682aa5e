import ScriptHost.Proofs.World.Grows

/-!
# Entering realms by a policy

Two things are decided when code of a realm is entered: which context it runs in, and which
stack it gets.  Both are read off the live stack.  What a run owes to that stack can be seen by
deciding otherwise: a `Policy` says which stack code gets, and whether realms are looked up by
their identifiers, which is how a host call finds its realm too.

This file has the program with the policy left open.  By the usual policy it is the program.
-/

namespace ScriptHost

variable {φ γ σ α : Type}

/-- How code of a realm is entered. -/
structure Policy where
  /-- The stack that it gets: by whether its realm is live, what is left of the stack, and the
  stack of its engine. -/
  stack : Bool → Script.Stack → Script.Stack → Script.Stack
  /-- No identifiers are looked up: a realm that is live is its own context, and host calls are
  answered for the realm that they are from. -/
  direct : Bool

namespace Policy

/-- What the program does. -/
def usual : Policy := ⟨fun live left own => if live then left else own, false⟩

/-- The same stacks, with no identifiers looked up. -/
def straight (p : Policy) : Policy := ⟨p.stack, true⟩

/-- Whenever code is entered its stack depends on the engine alone. -/
def evenly (stack : Script.Stack → Script.Stack) : Policy := ⟨fun _ _ own => stack own, false⟩

end Policy

/-! ## The program by a policy -/

variable (p : Policy)

/-- The live context of a realm. -/
def World.contextBy? (w : World φ σ) (r : RealmRef) : Option RealmRef :=
  if p.direct then if r ∈ w.live then some r else none else w.context? r

/-- Runs something with the context of a realm and the stack that the policy gives it. -/
def World.withContextBy (w : World φ σ) (r : RealmRef) (left : Script.Stack)
    (f : RealmRef → Script.Stack → World φ σ → World φ σ × Except Failure α) :
    World φ σ × Except Failure α :=
  match w.contextBy? p r with
  | some context => f context (p.stack true left (w.realm r).stack) w
  | none =>
    if (w.realm r).isScript then
      let (w, result) :=
        f r (p.stack false left (w.realm r).stack) { w with live := r :: w.live }
      ({ w with live := w.live.tail }, result)
    else (w, .error (World.otherBackend (w.realm r)))

variable [Machine]

/-- Runs a source in a realm. -/
def executeBy (d : Dispatcher φ σ) (left : Script.Stack) (r : RealmRef) (source : String)
    (w : World φ σ) : World φ σ × Except Failure (Value φ) :=
  w.withContextBy p r left fun context stack w =>
    Crossing.runSource ⟨d, context, r, stack⟩ source w

/-- Makes a realm whose global object carries the exports of a namespace. -/
def createRealmBy (d : Dispatcher φ σ) (left : Script.Stack) (config : EngineConfig)
    (n : Namespace φ) (w : World φ σ) : World φ σ × Except Failure RealmRef :=
  if Machine.starts config.runtime then
    let heap := { Script.Heap.standard with memory := config.runtime.memory.map UInt64.toNat }
    let (r, w) := w.addRealm scriptBackend (.script heap) (Machine.stack config.runtime)
    let (w, result) := w.withContextBy p r left fun context stack w =>
      n.install ⟨d, context, r, stack⟩ Script.Place.global w
    match result with
    | .ok () => (w.record (.created (w.idOf r) n.size), .ok r)
    | .error e => (w, .error e)
  else (w, .error .noMemory)

/-- Runs a source in a fresh realm that carries the exports of a namespace. -/
def runExportsBy (d : Dispatcher φ σ) (left : Script.Stack) (config : EngineConfig)
    (n : Namespace φ) (source : String) (w : World φ σ) : World φ σ × Except Failure (Value φ) :=
  match createRealmBy p d left config n w with
  | (w, .error e) => (w, .error e)
  | (w, .ok r) =>
    let w := w.record (.running source.utf8ByteSize (w.idOf r) w.depth)
    let (guard, w) := w.enter r
    let (w, result) := executeBy p d left r source w
    (w.leave guard, result)

/-- Runs a source on an engine, with services for the generator. -/
def runWithBy (host : Host φ γ σ) (s : Services φ γ σ) (d : Dispatcher φ σ) (left : Script.Stack)
    (engine : Engine γ) (source : String) (w : World φ σ) :
    World φ σ × Except Failure (Value φ) :=
  let (w, n) := generateExports host s engine.generator w
  runExportsBy p d left engine.config n source w

/-- Calls a function that the host holds, with services for one of another backend. -/
def callWithBy (host : Host φ γ σ) (s : Services φ γ σ) (d : Dispatcher φ σ) (left : Script.Stack)
    (f : FunctionRef) (arguments : List (Value φ)) (w : World φ σ) :
    World φ σ × Except Failure (Value φ) :=
  match f with
  | .foreign backend =>
    let (w, completion) := (host.act backend arguments).perform s none {} w
    (w, host.outcome completion w.host)
  | .captured r _ =>
    let w := w.record (.calling (w.idOf r) arguments.length)
    let (guard, w) := w.enter r
    let (w, result) := w.withContextBy p r left fun context stack w =>
      Crossing.callFunction ⟨d, context, r, stack⟩ f arguments w
    (w.leave guard, result)

/-- How host code calls and runs, if its generators and functions nest at most `n` deep. -/
def servicesWithinBy (host : Host φ γ σ) (d : Dispatcher φ σ) (left : Script.Stack) :
    Nat → Services φ γ σ
  | 0 => .refusing
  | n + 1 =>
    { call := fun f arguments w =>
        callWithBy p host (servicesWithinBy host d left n) d left f arguments w
      run := fun engine source w =>
        runWithBy p host (servicesWithinBy host d left n) d left engine source w }

/-- How host code calls and runs under a dispatcher, with what is left of the stack. -/
def servicesBy (host : Host φ γ σ) (d : Dispatcher φ σ) (left : Script.Stack) : Services φ γ σ :=
  servicesWithinBy p host d left (Machine.nesting + 1)

/-- Calls a function that the host holds. -/
def callFunctionBy (host : Host φ γ σ) (d : Dispatcher φ σ) (left : Script.Stack)
    (f : FunctionRef) (arguments : List (Value φ)) (w : World φ σ) :
    World φ σ × Except Failure (Value φ) :=
  (servicesBy p host d left).call f arguments w

/-- The realm that a host call is answered for. -/
def World.callerBy? (w : World φ σ) (context : RealmRef) (id : UInt32) : Option RealmRef :=
  if p.direct then if context ∈ w.active then some context else none else w.findActive? id

/-- Answers a host call. -/
def answerBy (host : Host φ γ σ) (d : Dispatcher φ σ) (context : RealmRef)
    (call : Script.HostCall) : World φ σ → World φ σ × Script.Reply :=
  answerWith (fun w => w.callerBy? p context call.key.realm)
    (fun r slot arguments w =>
      w.invoke host (servicesBy p host d call.stack) r slot arguments) d context call

/-- Answers host calls down to a nesting depth. -/
def dispatcherBy (host : Host φ γ σ) : Nat → Dispatcher φ σ
  | 0 => fun _ _ w => (w, .tooDeep)
  | n + 1 => fun context call w => answerBy p host (dispatcherBy host n) context call w

variable {p}

/-! ## The usual policy -/

omit [Machine] in
theorem withContextBy_usual (w : World φ σ) (r : RealmRef) (left : Script.Stack)
    (f : RealmRef → Script.Stack → World φ σ → World φ σ × Except Failure α) :
    w.withContextBy .usual r left f = w.withContext r left f := by
  have hcontext : w.contextBy? .usual r = w.context? r := rfl
  unfold World.withContextBy World.withContext
  rw [hcontext]
  cases w.context? r <;> rfl

theorem createRealmBy_usual (d : Dispatcher φ σ) (left : Script.Stack) (config : EngineConfig)
    (n : Namespace φ) (w : World φ σ) :
    createRealmBy .usual d left config n w = createRealm d left config n w := by
  unfold createRealmBy
  simp only [withContextBy_usual]
  rfl

theorem runExportsBy_usual (d : Dispatcher φ σ) (left : Script.Stack) (config : EngineConfig)
    (n : Namespace φ) (source : String) (w : World φ σ) :
    runExportsBy .usual d left config n source w = runExports d left config n source w := by
  unfold runExportsBy executeBy
  simp only [createRealmBy_usual, withContextBy_usual]
  rfl

theorem runWithBy_usual (host : Host φ γ σ) (s : Services φ γ σ) (d : Dispatcher φ σ)
    (left : Script.Stack) (engine : Engine γ) (source : String) (w : World φ σ) :
    runWithBy .usual host s d left engine source w = runWith host s d left engine source w := by
  unfold runWithBy
  simp only [runExportsBy_usual]
  rfl

theorem callWithBy_usual (host : Host φ γ σ) (s : Services φ γ σ) (d : Dispatcher φ σ)
    (left : Script.Stack) (f : FunctionRef) (arguments : List (Value φ)) (w : World φ σ) :
    callWithBy .usual host s d left f arguments w = callWith host s d left f arguments w := by
  unfold callWithBy
  simp only [withContextBy_usual]
  rfl

theorem servicesBy_usual (host : Host φ γ σ) (d : Dispatcher φ σ) (left : Script.Stack) :
    servicesBy .usual host d left = services host d left := by
  have hwithin (n : Nat) :
      servicesWithinBy .usual host d left n = servicesWithin host d left n := by
    induction n with
    | zero => rfl
    | succ n ih =>
        simp only [servicesWithinBy, servicesWithin, ih, callWithBy_usual, runWithBy_usual]
  exact hwithin _

theorem callFunctionBy_usual (host : Host φ γ σ) (d : Dispatcher φ σ) (left : Script.Stack)
    (f : FunctionRef) (arguments : List (Value φ)) (w : World φ σ) :
    callFunctionBy .usual host d left f arguments w = callFunction host d left f arguments w := by
  unfold callFunctionBy
  rw [servicesBy_usual]
  rfl

theorem answerBy_usual (host : Host φ γ σ) (d : Dispatcher φ σ) :
    answerBy .usual host d = answer host d := by
  funext context call w
  unfold answerBy
  rw [servicesBy_usual]
  rfl

theorem dispatcherBy_usual (host : Host φ γ σ) (n : Nat) :
    dispatcherBy .usual host n = dispatcher host n := by
  induction n with
  | zero => rfl
  | succ n ih =>
      funext context call w
      rw [dispatcherBy, dispatcher_succ, ih, answerBy_usual]

/-! ## What every policy keeps to -/

section Bounds

variable {Rel : World φ σ → World φ σ → Prop} (F : Frame Rel) {d : Dispatcher φ σ}
variable (hd : ∀ context call (w : World φ σ), Rel w (d context call w).1)

include F

omit [Machine] in
theorem withContextBy_bound (w : World φ σ) (r : RealmRef) (left : Script.Stack)
    {f : RealmRef → Script.Stack → World φ σ → World φ σ × Except Failure α}
    (hf : ∀ context stack (w : World φ σ), Rel w (f context stack w).1) :
    Rel w (w.withContextBy p r left f).1 := by
  unfold World.withContextBy
  cases w.contextBy? p r with
  | some context => exact hf _ _ w
  | none =>
      by_cases hscript : (w.realm r).isScript = true
      · simp only [hscript, if_true]
        exact F.live r (hf _ _ _)
      · simp only [hscript]
        exact F.refl w

include hd

theorem createRealmBy_bound (left : Script.Stack) (config : EngineConfig) (n : Namespace φ)
    (w : World φ σ) : Rel w (createRealmBy p d left config n w).1 := by
  unfold createRealmBy
  split
  · have hmade := F.addRealm w scriptBackend
      (.script { Script.Heap.standard with memory := config.runtime.memory.map UInt64.toNat })
      (Machine.stack config.runtime)
    simp only [World.ref_addRealm]
    generalize (w.addRealm scriptBackend _ (Machine.stack config.runtime)).2 = w₁ at hmade ⊢
    have hin : Rel w₁ (w₁.withContextBy p w.realms.size left fun context stack w' =>
        n.install ⟨d, context, w.realms.size, stack⟩ Script.Place.global w').1 :=
      withContextBy_bound F w₁ _ left fun context stack w' =>
        ((Comparison.self F hd).install (c := ⟨d, context, w.realms.size, stack⟩) n _
          (w := w') ⟨⟩).bound
    replace hin := F.trans hmade hin
    generalize w₁.withContextBy p w.realms.size left _ = a at hin ⊢
    obtain ⟨w₂, e | u⟩ := a
    · exact hin
    · exact F.trans hin (F.record w₂ _)
  · exact F.refl w

theorem runExportsBy_bound (left : Script.Stack) (config : EngineConfig) (n : Namespace φ)
    (source : String) (w : World φ σ) : Rel w (runExportsBy p d left config n source w).1 := by
  unfold runExportsBy
  have hcreate : Rel w (createRealmBy p d left config n w).1 :=
    createRealmBy_bound F hd left config n w
  generalize createRealmBy p d left config n w = a at hcreate ⊢
  obtain ⟨w₁, e | r⟩ := a
  · exact hcreate
  · refine F.trans hcreate (F.trans (F.record w₁
      (.running source.utf8ByteSize (w₁.idOf r) w₁.depth)) (F.active r ?_))
    exact withContextBy_bound F _ r left fun context stack w' =>
      ((Comparison.self F hd).runSource (c := ⟨d, context, r, stack⟩) source (w := w') ⟨⟩).bound

theorem runWithBy_bound {host : Host φ γ σ} (hhost : host.Settled (fun _ => True) Rel)
    {s : Services φ γ σ} (hs : s.Alike (fun _ => True) Rel s) (left : Script.Stack)
    (engine : Engine γ) (source : String) (w : World φ σ) :
    Rel w (runWithBy p host s d left engine source w).1 :=
  F.trans ((Comparison.self F hd).generateExports hhost hs engine.generator trivial).bound
    (runExportsBy_bound F hd left engine.config _ source _)

theorem callWithBy_bound {host : Host φ γ σ} (hhost : host.Settled (fun _ => True) Rel)
    {s : Services φ γ σ} (hs : s.Alike (fun _ => True) Rel s) (left : Script.Stack)
    (f : FunctionRef) (arguments : List (Value φ)) (w : World φ σ) :
    Rel w (callWithBy p host s d left f arguments w).1 := by
  cases f with
  | foreign backend => exact (hhost hs (.function backend arguments) {} trivial).bound
  | captured r o =>
      refine F.trans (F.record w (.calling (w.idOf r) arguments.length)) (F.active r ?_)
      exact withContextBy_bound F _ r left fun context stack w' =>
        ((Comparison.self F hd).callContext (c := ⟨d, context, r, stack⟩) (.captured r o)
          arguments (w := w') ⟨⟩).bound

theorem servicesBy_keep {host : Host φ γ σ} (hhost : host.Settled (fun _ => True) Rel)
    (left : Script.Stack) : (servicesBy p host d left).Keep Rel := by
  have hwithin (n : Nat) : (servicesWithinBy p host d left n).Keep Rel := by
    induction n with
    | zero => exact ⟨fun _ _ w => F.refl w, fun _ _ w => F.refl w⟩
    | succ n ih =>
        exact ⟨fun f arguments w => callWithBy_bound F hd hhost ih.alike left f arguments w,
          fun engine source w => runWithBy_bound F hd hhost ih.alike left engine source w⟩
  exact hwithin _

theorem answerWith_bound {find : World φ σ → Option RealmRef}
    {invoke : RealmRef → UInt32 → List (Value φ) → World φ σ → World φ σ × Completion φ}
    (hinvoke : ∀ r slot arguments w, Rel w (invoke r slot arguments w).1)
    (context : RealmRef) (call : Script.HostCall) (w : World φ σ) :
    Rel w (answerWith find invoke d context call w).1 :=
  ((Comparison.self F hd).answerWith
    (fun r slot arguments w _ => ⟨rfl, hinvoke r slot arguments w⟩) context call trivial).bound

omit [Machine] hd in
theorem invoke_bound {host : Host φ γ σ} {s : Services φ γ σ}
    (hperform : ∀ f i (w : World φ σ), Rel w ((host.behave f i).perform s (some i) {} w).1)
    (r : RealmRef) (slot : UInt32) (arguments : List (Value φ)) (w : World φ σ) :
    Rel w (w.invoke host s r slot arguments).1 := by
  unfold World.invoke World.invokeProbed
  cases (w.realm r).native? slot with
  | none => exact F.record w _
  | some f => exact hperform f _ w

end Bounds

/-- What steps keep to, host calls do at every nesting, if the host does whenever calls do. -/
theorem dispatcherBy_bound {Rel : World φ σ → World φ σ → Prop} (F : Frame Rel)
    {host : Host φ γ σ} (hhost : host.Settled (fun _ => True) Rel) (n : Nat) (context : RealmRef)
    (call : Script.HostCall) (w : World φ σ) :
    Rel w (dispatcherBy p host n context call w).1 := by
  induction n generalizing context call w with
  | zero => exact F.refl w
  | succ n ih =>
      have hs : (servicesBy p host (dispatcherBy p host n) call.stack).Keep Rel :=
        servicesBy_keep F ih hhost call.stack
      exact answerWith_bound F ih (fun r slot arguments w =>
        invoke_bound F (fun f i _ => (hhost hs.alike (.callback f i) {} trivial).bound)
          r slot arguments w) context call w

theorem servicesBy_grow (host : Host φ γ σ) {d : Dispatcher φ σ}
    (hd : ∀ context call (w : World φ σ), Grows w (d context call w).1) (left : Script.Stack) :
    (servicesBy p host d left).Grow :=
  servicesBy_keep Grows.frame hd host.settled_grows left

theorem dispatcherBy_grows (host : Host φ γ σ) (n : Nat) (context : RealmRef)
    (call : Script.HostCall) (w : World φ σ) :
    Grows w (dispatcherBy p host n context call w).1 :=
  dispatcherBy_bound Grows.frame host.settled_grows n context call w

end ScriptHost
