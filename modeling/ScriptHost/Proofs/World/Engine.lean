import ScriptHost.Proofs.World.Fresh

/-!
# Runs and calls under two dispatchers

The comparison of `Frame` goes on through everything that enters a realm.  A context
is either there already or it is entered anew; `Entering` gives the property back in
both cases.  The one place where it need not hold is a realm that is just being made,
and there no host call happens.

Generators and the functions of other backends take steps of their own, with calls and runs
that nest less deep.  That those come out alike is up to the host, so it is a hypothesis here:
`Host.Settled`.
-/

namespace ScriptHost

variable {φ γ σ α : Type}

/-- The property holds again once a realm has become active and its context is there. -/
structure Entering (P : World φ σ → Prop) : Prop where
  again {w : World φ σ} {r context : RealmRef} :
    P w → w.context? r = some context → P (w.enter r).2
  first {w : World φ σ} {r : RealmRef} :
    P w → r < w.realms.size → w.context? r = none →
      P { (w.enter r).2 with live := r :: w.live }

/-- Nothing has to be found anew where nothing has to hold. -/
theorem Entering.trivial : Entering (fun _ : World φ σ => True) := ⟨fun _ _ => ⟨⟩, fun _ _ _ => ⟨⟩⟩

/-- Calls and runs come out alike where a property holds. -/
structure Services.Alike (P : World φ σ → Prop) (Rel : World φ σ → World φ σ → Prop)
    (s s' : Services φ γ σ) : Prop where
  call (f : FunctionRef) (arguments : List (Value φ)) {w : World φ σ} : P w →
    Settles Rel w (s.call f arguments w) (s'.call f arguments w)
  run (engine : Engine γ) (source : String) {w : World φ σ} : P w →
    Settles Rel w (s.run engine source w) (s'.run engine source w)

/-- The steps that a host has taken: by its callbacks, its generators and its functions of other
backends. -/
inductive Host.Takes (host : Host φ γ σ) : Option (Invocation φ) → Body φ γ σ → Prop
  | callback (f : φ) (i : Invocation φ) : host.Takes (some i) (host.behave f i)
  | generator (g : γ) : host.Takes none (host.prepare g)
  | function (backend : String) (arguments : List (Value φ)) :
      host.Takes none (host.act backend arguments)

/-- What a host does comes out alike if the calls and runs in it do. -/
def Host.Settled (P : World φ σ → Prop) (Rel : World φ σ → World φ σ → Prop)
    (host : Host φ γ σ) : Prop :=
  ∀ {s s' : Services φ γ σ}, s.Alike P Rel s' → ∀ {i b}, host.Takes i b → ∀ r {w}, P w →
    Settles Rel w (b.perform s i r w) (b.perform s' i r w)

/-- What calls and runs do to the world is bounded. -/
structure Services.Keep (Rel : World φ σ → World φ σ → Prop) (s : Services φ γ σ) : Prop where
  call (f : FunctionRef) (arguments : List (Value φ)) (w : World φ σ) :
    Rel w (s.call f arguments w).1
  run (engine : Engine γ) (source : String) (w : World φ σ) : Rel w (s.run engine source w).1

/-- Where nothing has to hold, calls and runs that come out alike are the same. -/
theorem Services.Alike.eq {Rel : World φ σ → World φ σ → Prop} {s s' : Services φ γ σ}
    (hs : s.Alike (fun _ => True) Rel s') : s' = s := by
  have hcall : s'.call = s.call := by
    funext f arguments w
    exact (hs.call f arguments trivial).same
  have hrun : s'.run = s.run := by
    funext engine source w
    exact (hs.run engine source trivial).same
  cases s
  cases s'
  cases hcall
  cases hrun
  rfl

theorem Services.Alike.keep {Rel : World φ σ → World φ σ → Prop} {s s' : Services φ γ σ}
    (hs : s.Alike (fun _ => True) Rel s') : s.Keep Rel :=
  ⟨fun f arguments _ => (hs.call f arguments trivial).bound,
    fun engine source _ => (hs.run engine source trivial).bound⟩

theorem Services.Keep.alike {Rel : World φ σ → World φ σ → Prop} {s : Services φ γ σ}
    (hs : s.Keep Rel) : s.Alike (fun _ => True) Rel s :=
  ⟨fun f arguments w _ => ⟨rfl, hs.call f arguments w⟩,
    fun engine source w _ => ⟨rfl, hs.run engine source w⟩⟩

/-- A host keeps to a bound if its steps do whenever calls and runs do. -/
theorem Host.settled {Rel : World φ σ → World φ σ → Prop} {host : Host φ γ σ}
    (hsteps : ∀ {s : Services φ γ σ}, s.Keep Rel → ∀ {i b}, host.Takes i b → ∀ r w,
      Rel w (b.perform s i r w).1) : host.Settled (fun _ => True) Rel := by
  intro s s' hs i b hb r w _
  obtain rfl := hs.eq
  exact ⟨rfl, hsteps hs.keep hb r w⟩

/-- Steps keep to a relation that is not about the active stack if calls and runs do. -/
theorem Body.perform_bound {Rel : World φ σ → World φ σ → Prop} (F : Frame Rel)
    (hactive : ∀ (w : World φ σ) active, Rel w { w with active := active })
    {s : Services φ γ σ} (hs : s.Keep Rel) (i : Option (Invocation φ)) (b : Body φ γ σ)
    (r : Recorded φ) (w : World φ σ) : Rel w (b.perform s i r w).1 := by
  induction b generalizing r w with
  | done => exact F.refl w
  | answer v next ih => exact ih _ w
  | fail message next ih => exact ih _ w
  | call f vs next ih => exact F.trans (hs.call f vs w) (ih _ r _)
  | run engine source next ih => exact F.trans (hs.run engine source w) (ih _ r _)
  | look next ih => exact ih _ r w
  | «recall» next ih => exact ih _ r w
  | remember f next ih => exact F.trans (F.host w 0 (f w.host)) (ih r _)
  | make f next ih => exact F.trans (F.host w _ _) (ih _ r _)
  | enter realm' next ih => exact F.trans (hactive w _) (ih _ r _)
  | leave g next ih => exact F.trans (hactive w _) (ih r _)

/-- The dispatcher that refuses every host call. -/
def refusing : Dispatcher φ σ := fun _ _ w => (w, .tooDeep)

namespace Comparison

variable {P : World φ σ → Prop} {Rel : World φ σ → World φ σ → Prop} {d d' : Dispatcher φ σ}

/-! ## Contexts -/

/-- What holds of a context that is there and of one that is entered holds of both. -/
theorem inContext (F : Frame Rel) {w : World φ σ} (r : RealmRef) (left : Script.Stack)
    {f f' : RealmRef → Script.Stack → World φ σ → World φ σ × Except Failure α}
    (again : ∀ context, w.context? r = some context →
      Settles Rel w (f context left w) (f' context left w))
    (first : w.context? r = none → (w.realm r).isScript = true →
      Settles Rel { w with live := r :: w.live }
        (f r (w.realm r).stack { w with live := r :: w.live })
        (f' r (w.realm r).stack { w with live := r :: w.live })) :
    Settles Rel w (w.withContext r left f) (w.withContext r left f') := by
  unfold World.withContext
  cases hcontext : w.context? r with
  | some context => exact again context hcontext
  | none =>
      by_cases hscript : (w.realm r).isScript = true
      · obtain ⟨hsame, hbound⟩ := first hcontext hscript
        simp only [hscript, if_true, hsame]
        exact ⟨rfl, F.live r hbound⟩
      · simp only [hscript]
        exact .refl F _

/-- A realm is active while something happens in its context. -/
theorem entered (C : Comparison P Rel d d') (E : Entering P) {w : World φ σ} (hw : P w)
    (r : RealmRef) (left : Script.Stack)
    {f f' : RealmRef → Script.Stack → World φ σ → World φ σ × Except Failure α}
    (inside : ∀ context stack {w : World φ σ}, P w →
      Settles Rel w (f context stack w) (f' context stack w)) :
    Settles Rel (w.enter r).2 ((w.enter r).2.withContext r left f)
      ((w.enter r).2.withContext r left f') := by
  refine inContext C.frame r left (fun context hcontext => ?_) fun hnone hscript => ?_
  · exact inside _ _ (E.again hw hcontext)
  · exact inside _ _ (E.first hw (World.lt_size_of_isScript _ hscript) hnone)

variable [Machine] {c : Crossing φ σ}

/-! ## Running a source -/

theorem runSource (C : Comparison P Rel c.dispatch d') (source : String) {w : World φ σ}
    (hw : P w) : Settles Rel w (c.runSource source w) ((c.through d').runSource source w) := by
  unfold Crossing.runSource
  cases nulPosition? source with
  | some n => exact .refl C.frame _
  | none =>
      obtain ⟨hsame, hbound⟩ := C.run (Machine.runSource c.stack source) hw
      change Settles Rel w _ ((c.through d').conclude
        ((c.through d').run (Machine.runSource c.stack source) w).2
        ((c.through d').run (Machine.runSource c.stack source) w).1)
      rw [hsame]
      exact (C.conclude _ (C.stable hw hbound)).after C.frame hbound

theorem execute (C : Comparison P Rel d d') (E : Entering P) {w : World φ σ} (hw : P w)
    (r : RealmRef) (left : Script.Stack) (source : String) :
    Settles Rel (w.enter r).2 (execute d left r source (w.enter r).2)
      (ScriptHost.execute d' left r source (w.enter r).2) :=
  C.entered E hw r left fun context stack _ hw =>
    Comparison.runSource (c := ⟨d, context, r, stack⟩) C source hw

/-! ## Making a realm -/

/-- Exporting into a realm that was just made, with whatever dispatcher. -/
theorem installFresh [LawfulMachine] (F : Frame Rel) (stack : Script.Stack) (n : Namespace φ)
    {w : World φ σ} {r : RealmRef} {limit : Option Nat} (hr : r < w.realms.size)
    (hheap : w.heap r = { Script.Heap.standard with memory := limit }) :
    Settles Rel w (n.install ⟨d, r, r, stack⟩ Script.Place.global w)
      (n.install ⟨d', r, r, stack⟩ Script.Place.global w) := by
  have ht : FreshTarget r Script.Place.global w := by
    refine ⟨⟨hr, ?_⟩, ?_, ?_⟩
    · rw [hheap]
      exact Script.Heap.Pristine.standard.withMemory limit
    · rw [hheap]
      exact (Script.Heap.Pristine.standard_global limit).1
    · rw [hheap]
      exact (Script.Heap.Pristine.standard_global limit).2
  -- the exports that go into a new realm never ask the host, so both dispatchers are compared with
  -- the one that refuses, and its own run says what the change is bounded by
  have hself : Comparison (fun _ : World φ σ => True) Rel refusing refusing :=
    .self F fun _ _ => F.refl
  have hfirst := install_fresh (c := ⟨d, r, r, stack⟩) refusing n Script.Place.global ht
  have hsecond := install_fresh (c := ⟨d', r, r, stack⟩) refusing n Script.Place.global ht
  have hbound := hself.install (c := ⟨refusing, r, r, stack⟩) n Script.Place.global
    (w := w) trivial
  refine ⟨hsecond.same.symm.trans hfirst.same, ?_⟩
  rw [← hfirst.same]
  exact hbound.bound

theorem createRealm [LawfulMachine] (C : Comparison P Rel d d') (left : Script.Stack)
    (config : EngineConfig) (n : Namespace φ) {w : World φ σ} (hw : P w) :
    Settles Rel w (createRealm d left config n w) (ScriptHost.createRealm d' left config n w) := by
  unfold ScriptHost.createRealm
  split
  · let heap := { Script.Heap.standard with memory := config.runtime.memory.map UInt64.toNat }
    have hmade := C.frame.addRealm w scriptBackend (.script heap) (Machine.stack config.runtime)
    have hheap := w.heap_addRealm_self scriptBackend heap (Machine.stack config.runtime)
    have hsize := w.size_addRealm scriptBackend (.script heap) (Machine.stack config.runtime)
    simp only [World.ref_addRealm]
    generalize (w.addRealm scriptBackend (.script heap) (Machine.stack config.runtime)).2 = w₁
      at hmade hheap hsize ⊢
    -- the context may be the realm that was made or, in a world with realms, one that is active
    -- already; only the first is pristine
    have hin : Settles Rel w₁
        (w₁.withContext w.realms.size left fun context stack w' =>
          n.install ⟨d, context, w.realms.size, stack⟩ Script.Place.global w')
        (w₁.withContext w.realms.size left fun context stack w' =>
          n.install ⟨d', context, w.realms.size, stack⟩ Script.Place.global w') := by
      refine inContext C.frame _ left (fun context _ => ?_) fun _ _ => ?_
      · exact C.install (c := ⟨d, context, w.realms.size, left⟩) n _ (C.stable hw hmade)
      · exact installFresh C.frame _ n (hsize ▸ Nat.lt_succ_self _) hheap
    rw [hin.same]
    have hbound := C.frame.trans hmade hin.bound
    generalize w₁.withContext w.realms.size left _ = a at hbound ⊢
    obtain ⟨w₂, e | u⟩ := a
    · exact ⟨rfl, hbound⟩
    · exact ⟨rfl, C.frame.trans hbound (C.frame.record w₂ _)⟩
  · exact .refl C.frame _

/-! ## Runs and calls -/

omit [Machine] in
theorem generateExports (C : Comparison P Rel d d') {host : Host φ γ σ} (hhost : host.Settled P Rel)
    {s s' : Services φ γ σ} (hs : s.Alike P Rel s') (g : γ) {w : World φ σ} (hw : P w) :
    Settles Rel w (generateExports host s g w) (ScriptHost.generateExports host s' g w) := by
  obtain ⟨hsame, hbound⟩ := hhost hs (.generator g) {} hw
  unfold ScriptHost.generateExports
  rw [hsame]
  exact ⟨rfl, C.frame.trans hbound (C.frame.host _ _ _)⟩

theorem runExports [LawfulMachine] (C : Comparison P Rel d d') (E : Entering P)
    (left : Script.Stack) (config : EngineConfig) (n : Namespace φ) (source : String)
    {w : World φ σ} (hw : P w) :
    Settles Rel w (runExports d left config n source w)
      (ScriptHost.runExports d' left config n source w) := by
  obtain ⟨hsame, hbound⟩ := C.createRealm left config n hw
  unfold ScriptHost.runExports
  simp only [hsame]
  generalize ScriptHost.createRealm d left config n w = a at hbound ⊢
  obtain ⟨w₁, e | r⟩ := a
  · exact ⟨rfl, hbound⟩
  · have hrecord := C.frame.trans hbound
      (C.frame.record w₁ (.running source.utf8ByteSize (w₁.idOf r) w₁.depth))
    obtain ⟨hsame', hbound'⟩ := C.execute E (C.stable hw hrecord) r left source
    simp only [hsame']
    exact ⟨rfl, C.frame.trans hrecord (C.frame.active r hbound')⟩

theorem runWith [LawfulMachine] (C : Comparison P Rel d d') (E : Entering P) {host : Host φ γ σ}
    (hhost : host.Settled P Rel) {s s' : Services φ γ σ} (hs : s.Alike P Rel s')
    (left : Script.Stack) (engine : Engine γ) (source : String) {w : World φ σ} (hw : P w) :
    Settles Rel w (runWith host s d left engine source w)
      (ScriptHost.runWith host s' d' left engine source w) := by
  obtain ⟨hsame, hbound⟩ := C.generateExports hhost hs engine.generator hw
  unfold ScriptHost.runWith
  simp only [hsame]
  exact (C.runExports E left engine.config _ source (C.stable hw hbound)).after C.frame hbound

theorem callContext (C : Comparison P Rel c.dispatch d') (f : FunctionRef)
    (arguments : List (Value φ)) {w : World φ σ} (hw : P w) :
    Settles Rel w (c.callFunction f arguments w) ((c.through d').callFunction f arguments w) := by
  obtain ⟨hsame, hbound⟩ := C.restore f w
  unfold Crossing.callFunction
  simp only [hsame]
  generalize c.restore f w = a at hbound ⊢
  obtain ⟨w₁, e | x⟩ := a
  · exact ⟨rfl, hbound⟩
  · have hw₁ := C.stable hw hbound
    obtain ⟨hsame', hbound'⟩ := C.extractAll arguments hw₁
    simp only [hsame']
    generalize c.extractAll arguments w₁ = b at hbound' ⊢
    replace hbound := C.frame.trans hbound hbound'
    obtain ⟨w₂, e | vs⟩ := b
    · exact ⟨rfl, hbound⟩
    · have hw₂ := C.stable hw₁ hbound'
      obtain ⟨hsame'', hbound''⟩ :=
        C.run (c.evaluator.call x (.object Script.Place.global) vs) hw₂
      simp only [Crossing.through_evaluator, hsame'']
      exact (C.conclude _ (C.stable hw₂ hbound'')).after C.frame (C.frame.trans hbound hbound'')

theorem callWith (C : Comparison P Rel d d') (E : Entering P) {host : Host φ γ σ}
    (hhost : host.Settled P Rel) {s s' : Services φ γ σ} (hs : s.Alike P Rel s')
    (left : Script.Stack) (f : FunctionRef) (arguments : List (Value φ)) {w : World φ σ}
    (hw : P w) :
    Settles Rel w (callWith host s d left f arguments w)
      (ScriptHost.callWith host s' d' left f arguments w) := by
  cases f with
  | foreign backend =>
      obtain ⟨hsame, hbound⟩ := hhost hs (.function backend arguments) {} hw
      simp only [ScriptHost.callWith, hsame]
      exact ⟨rfl, hbound⟩
  | captured r o =>
      have hrecord := C.frame.record w (.calling (w.idOf r) arguments.length)
      have hinside (context : RealmRef) (stack : Script.Stack) {w : World φ σ} (hw : P w) :
          Settles Rel w
            (Crossing.callFunction ⟨d, context, r, stack⟩ (.captured r o) arguments w)
            (Crossing.callFunction ⟨d', context, r, stack⟩ (.captured r o) arguments w) :=
        C.callContext (c := ⟨d, context, r, stack⟩) (.captured r o) arguments hw
      obtain ⟨hsame, hbound⟩ := C.entered E (C.stable hw hrecord) r left hinside
      simp only [ScriptHost.callWith]
      rw [hsame]
      exact ⟨rfl, C.frame.trans hrecord (C.frame.active r hbound)⟩

section Services

variable [LawfulMachine] (C : Comparison P Rel d d') (E : Entering P) {host : Host φ γ σ}
  (hhost : host.Settled P Rel) (left : Script.Stack)

include C E hhost

theorem servicesWithin (n : Nat) :
    (servicesWithin host d left n).Alike P Rel (ScriptHost.servicesWithin host d' left n) := by
  induction n with
  | zero => exact ⟨fun _ _ _ _ => .refl C.frame _, fun _ _ _ _ => .refl C.frame _⟩
  | succ n ih =>
      exact ⟨fun f arguments _ hw => C.callWith E hhost ih left f arguments hw,
        fun engine source _ hw => C.runWith E hhost ih left engine source hw⟩

theorem services : (services host d left).Alike P Rel (ScriptHost.services host d' left) :=
  C.servicesWithin E hhost left _

end Services

/-! ## Answers -/

theorem reply (C : Comparison P Rel c.dispatch d') (completion : Completion φ) {w : World φ σ}
    (hw : P w) : Settles Rel w (c.reply completion w) ((c.through d').reply completion w) := by
  cases completion with
  | thrown message => exact .refl C.frame _
  | returned v =>
      obtain ⟨hsame, hbound⟩ := C.extract v hw
      simp only [Crossing.reply, hsame]
      generalize v.extract c w = a at hbound ⊢
      obtain ⟨w', e | x⟩ := a
      · exact ⟨rfl, hbound⟩
      · exact ⟨rfl, hbound⟩

/-- Host calls are answered alike if callbacks are invoked alike. -/
theorem answerWith (C : Comparison P Rel d d') {find : World φ σ → Option RealmRef}
    {invoke invoke' : RealmRef → UInt32 → List (Value φ) → World φ σ → World φ σ × Completion φ}
    (hinvoke : ∀ r slot arguments {w : World φ σ}, P w →
      Settles Rel w (invoke r slot arguments w) (invoke' r slot arguments w))
    (context : RealmRef) (call : Script.HostCall) {w : World φ σ} (hw : P w) :
    Settles Rel w (answerWith find invoke d context call w)
      (ScriptHost.answerWith find invoke' d' context call w) := by
  unfold ScriptHost.answerWith
  cases find w with
  | none => exact ⟨rfl, C.frame.record w _⟩
  | some r =>
      obtain ⟨hsame, hbound⟩ :=
        C.toValues (c := ⟨d, context, r, call.stack⟩) call.arguments hw
      simp only [Crossing.through] at hsame
      simp only [hsame]
      generalize Crossing.toValues ⟨d, context, r, call.stack⟩ call.arguments w = a at hbound ⊢
      obtain ⟨w₁, e | arguments⟩ := a
      · exact ⟨rfl, hbound⟩
      · have hw₁ := C.stable hw hbound
        obtain ⟨hsame', hbound'⟩ := hinvoke r call.key.slot arguments hw₁
        simp only [hsame']
        exact (C.reply (c := ⟨d, context, r, call.stack⟩) _ (C.stable hw₁ hbound')).after
          C.frame (C.frame.trans hbound hbound')

end Comparison

end ScriptHost
