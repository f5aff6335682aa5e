import ScriptHost.Proofs.World.Policy
import ScriptHost.Proofs.World.Regime

/-!
# Runs and calls are sound

The context that a realm is entered with is that of the realm itself: live realms exist,
and the identifiers of fewer than `2 ^ 32` realms differ.  So by a policy that looks no
identifiers up everything comes out the same, and two policies are followed side by side that
give code the same stack.

A realm that is just being made is entered while nothing can ask the host, so there it does
not matter that it is not active.  What a callback does is sound if the host is honest, step
by step; and a host call that is sound is answered by the callback that was exported.
-/

namespace ScriptHost

open Script (Heap RefRule Val)

variable {φ γ σ α : Type}
variable {G : Regime φ σ} {R : RefRule} {know : Knowledge φ γ σ} {w : World φ σ}
variable {r : RealmRef} {p q : Policy}

/-! ## What does not depend on the engine -/

theorem later_withStacks (w : World φ σ) (active live : List RealmRef) :
    w.Later { w with active := active, live := live } :=
  .of_realms_eq rfl rfl List.suffix_rfl

theorem later_record (w : World φ σ) (e : Event) : w.Later (w.record e) :=
  .of_realms_eq rfl rfl (List.suffix_cons e w.log)

theorem later_host (w : World φ σ) (n : Nat) (s : σ) :
    w.Later { w with nextValue := w.nextValue + n, host := s } :=
  .of_realms_eq rfl rfl List.suffix_rfl

/-- The stacks have no part in a property of results. -/
def Stackless (Q : World φ σ → α → Prop) : Prop :=
  ∀ (w : World φ σ) (x : α) (active live : List RealmRef),
    Q w x → Q { w with active := active, live := live } x

/-- What comes back leads to functions that can be held. -/
theorem stackless_known :
    Stackless fun (w' : World φ σ) (x : Except Failure (Value φ)) => Known know (w'.held R) x :=
  fun _ _ _ _ => id

theorem known_error (w' : World φ σ) (e : Failure) : Known know (w'.held R) (.error e) :=
  fun _ hv => by cases hv

theorem RealmState.fresh_withMemory {h : Heap} (hh : (RealmState.script h).Fresh)
    (limit : Option Nat) : (RealmState.script { h with memory := limit }).Fresh := hh

theorem RealmState.fresh_standard : (RealmState.script Heap.standard).Fresh := by
  unfold RealmState.Fresh
  exact ⟨rfl, rfl⟩

/-- What a callback has recorded leads to functions that can be held. -/
def Recorded.Sound (know : Knowledge φ γ σ) (K : Functions) (r : Recorded φ) : Prop :=
  ∀ v, r.result = some v → v.Leads know.callback ≤ K

/-- A callback ends with a value that leads to functions that can be held. -/
def Completion.Sound (know : Knowledge φ γ σ) (K : Functions) (c : Completion φ) : Prop :=
  ∀ v, c = .returned v → v.Leads know.callback ≤ K

theorem Recorded.Sound.mono {K K' : Functions} {r : Recorded φ} (hr : r.Sound know K)
    (hK : K ≤ K') : r.Sound know K' :=
  fun v hv => (hr v hv).trans hK

theorem Recorded.Sound.completion {K : Functions} {r : Recorded φ} (hr : r.Sound know K) :
    r.completion.Sound know K := by
  intro v hv
  unfold Recorded.completion at hv
  split at hv
  · cases hv
  · cases hv
    cases hresult : r.result with
    | none => exact fun s o ho => ho.elim
    | some v => exact hr v hresult

variable [Machine]

/-! ## Contexts -/

namespace World.Sound

/-- The context of a realm is the realm. -/
theorem eq_of_context? (hw : w.Sound R know) (hfew : w.realms.size < 2 ^ 32)
    {context : RealmRef} (hc : w.context? r = some context) : context = r :=
  hw.numbered.eq_of_idOf hfew (World.lt_size_of_context? hc) (World.mem_live_of_context? hc).2

/-- The context of a realm that is live is the realm, by every policy. -/
theorem contextBy?_eq (hw : w.Sound R know) (hfew : w.realms.size < 2 ^ 32) (p : Policy)
    (r : RealmRef) : w.contextBy? p r = if r ∈ w.live then some r else none := by
  unfold World.contextBy?
  split
  · rfl
  cases hc : w.context? r with
  | some context =>
      obtain rfl := hw.eq_of_context? hfew hc
      rw [if_pos (World.mem_live_of_context? hc).1]
  | none =>
      rw [if_neg fun hlive => ?_]
      unfold World.context? World.findLive? at hc
      rw [if_pos (hw.live r hlive), List.find?_eq_none] at hc
      exact hc r hlive (beq_self_eq_true _)

/-- The realms that are active do not matter, and those that are live have to exist. -/
theorem withStacks (hw : w.Sound R know) (active : List RealmRef) {live : List RealmRef}
    (hlive : ∀ r ∈ live, r < w.realms.size) :
    { w with active := active, live := live }.Sound R know :=
  ⟨⟨hw.numbered.next, hw.numbered.id⟩, hlive, hw.heaps, fun r o k hk => by
    obtain ⟨f, hf⟩ := hw.natives r o k hk
    exact ⟨f, hf.later (.of_realms_eq rfl rfl List.suffix_rfl)⟩, hw.callbacks, hw.host⟩

/-- A host call is answered for the realm that it is from, by every policy: its key is that of
a function that was exported there, and among fewer than `2 ^ 32` realms no other has its
identifier. -/
theorem callerBy?_eq (hw : w.Sound R know) (hfew : w.realms.size < 2 ^ 32) (p : Policy)
    (hr : r < w.realms.size) {call : Script.HostCall} (hcall : call.Sound R (w.heap r)) :
    w.callerBy? p r call.key.realm = if r ∈ w.active then some r else none := by
  obtain ⟨o, ho⟩ := hcall.native
  obtain ⟨f, hf⟩ := hw.natives r o _ ho
  obtain ⟨-, n, -, hkey⟩ := hf.native?
  have hid : call.key.realm = w.idOf r := by
    rw [hkey, Option.some.injEq] at ho
    rw [← ho]
  unfold World.callerBy?
  split
  · rfl
  cases hfound : w.findActive? call.key.realm with
  | some s =>
      have hs := List.find?_some hfound
      obtain rfl : s = r := hw.numbered.eq_of_idOf hfew hr (hid ▸ by simpa using hs)
      rw [if_pos (List.mem_of_find?_eq_some hfound)]
  | none =>
      rw [if_neg fun hactive => ?_]
      have hnone := List.find?_eq_none.mp hfound r hactive
      exact hnone (beq_iff_eq.mpr hid.symm)

theorem live_cons (hw : w.Sound R know) (hr : r < w.realms.size) :
    ∀ s ∈ r :: w.live, s < w.realms.size := by
  intro s hs
  rcases List.mem_cons.mp hs with rfl | hs
  · exact hr
  · exact hw.live s hs

theorem record (hw : w.Sound R know) (e : Event) : (w.record e).Sound R know :=
  hw.of_realms_eq rfl rfl (List.suffix_cons e w.log) rfl hw.host

end World.Sound

namespace Regime.Sane

/-- The stacks change before something happens and again afterwards. -/
theorem stacked {Q : World φ σ → α → Prop} (hQ : Stackless Q) (active live : List RealmRef)
    (active' live' : World φ σ → List RealmRef) {a b : World φ σ × α}
    (hlive : ∀ w', w'.Sound R know → ∀ r ∈ live' w', r < w'.realms.size)
    (hsane : G.Sane R know Q { w with active := active, live := live } a b) :
    G.Sane R know Q w ({ a.1 with active := active' a.1, live := live' a.1 }, a.2)
      ({ b.1 with active := active' b.1, live := live' b.1 }, b.2) := by
  intro hwithin
  have hgrows : Grows a.1 { a.1 with active := active' a.1, live := live' a.1 } :=
    (later_withStacks a.1 _ _).toGrows
  obtain ⟨hsame, hlater, hsound, hresult⟩ := hsane (G.back hgrows hwithin)
  obtain rfl := hsame
  exact ⟨rfl, ((later_withStacks w active live).trans hlater).trans (later_withStacks _ _ _),
    hsound.withStacks _ (hlive _ hsound), hQ _ _ _ _ hresult⟩

variable {Q : World φ σ → Except Failure α → Prop}
variable {f f' : RealmRef → Script.Stack → World φ σ → World φ σ × Except Failure α}

/-- What is sane with a context that is there and with one that is entered is sane with
both.  The context that is there is that of the realm. -/
theorem inContext (hpq : q.stack = p.stack) (hQ : Stackless Q) (herror : ∀ w e, Q w (.error e))
    (left : Script.Stack) (hgrows : ∀ context stack (w : World φ σ), Grows w (f context stack w).1)
    (hw : w.Sound R know)
    (again : ∀ stack, r ∈ w.live → G.Sane R know Q w (f r stack w) (f' r stack w))
    (first : ∀ stack, r ∉ w.live → (w.realm r).isScript = true →
      G.Sane R know Q { w with live := r :: w.live }
        (f r stack { w with live := r :: w.live }) (f' r stack { w with live := r :: w.live })) :
    G.Sane R know Q w (w.withContextBy p r left f) (w.withContextBy q r left f') := by
  intro hwithin
  have hfew := G.few (G.back (withContextBy_bound Grows.frame w r left hgrows) hwithin)
  revert hwithin
  unfold World.withContextBy
  rw [hpq, hw.contextBy?_eq hfew p r, hw.contextBy?_eq hfew q r]
  by_cases hlive : r ∈ w.live
  · simp only [if_pos hlive]
    exact again _ hlive
  · simp only [if_neg hlive]
    by_cases hscript : (w.realm r).isScript = true
    · simp only [hscript, if_true]
      exact stacked hQ w.active (r :: w.live) World.active (fun w' => w'.live.tail)
        (fun w' hs s hlive => hs.live s (List.mem_of_mem_tail hlive))
        (first _ hlive hscript)
    · simp only [hscript]
      exact unchanged hw (herror w _)

/-- A realm is active while something happens in its context. -/
theorem entered (hpq : q.stack = p.stack) (hQ : Stackless Q) (herror : ∀ w e, Q w (.error e))
    (r : RealmRef) (left : Script.Stack)
    (hgrows : ∀ context stack (w : World φ σ), Grows w (f context stack w).1)
    (hw : w.Sound R know)
    (inside : ∀ stack {w' : World φ σ}, w.Later w' → G.Ready R know r w' →
      G.Sane R know Q w' (f r stack w') (f' r stack w')) :
    G.Sane R know Q w
      (((w.enter r).2.withContextBy p r left f).1.leave (w.enter r).1,
        ((w.enter r).2.withContextBy p r left f).2)
      (((w.enter r).2.withContextBy q r left f').1.leave (w.enter r).1,
        ((w.enter r).2.withContextBy q r left f').2) := by
  have hentered : (w.enter r).2.Sound R know := hw.withStacks (r :: w.active) hw.live
  refine stacked hQ (r :: w.active) w.live
    (fun w' => World.bottom (w.enter r).1.depth w'.active) World.live (fun w' hs => hs.live)
    (inContext hpq hQ herror left hgrows hentered (fun stack hlive => ?_)
      fun stack hidle hscript => ?_)
  · exact inside stack (later_withStacks w _ _)
      ⟨G.enters r w w.live, hentered.live r hlive, hentered⟩
  · have hr := World.lt_size_of_isScript _ hscript
    exact inside stack (later_withStacks w _ _)
      ⟨G.enters r w (r :: w.live), hr, hentered.withStacks _ (hentered.live_cons hr)⟩

end Regime.Sane

/-! ## Callbacks -/

/-- Sane calls and runs of a callback come out alike and sanely. -/
structure Regime.Serves (G : Regime φ σ) (R : RefRule) (know : Knowledge φ γ σ)
    (s s' : Services φ γ σ) : Prop where
  grow : s.Grow
  call {f : FunctionRef} {arguments : List (Value φ)} {w : World φ σ} : f.Leads ≤ w.held R →
    (∀ v ∈ arguments, v.Leads know.callback ≤ w.held R) → w.Sound R know →
      G.Sane R know (fun w' x => Known know (w'.held R) x) w (s.call f arguments w)
        (s'.call f arguments w)
  run (engine : Engine γ) (source : String) {w : World φ σ} :
    know.generator engine.generator ≤ w.held R → w.Sound R know →
      G.Sane R know (fun w' x => Known know (w'.held R) x) w (s.run engine source w)
        (s'.run engine source w)

/-- An honest callback ends alike and sanely with probes in front of its steps.  Each step starts
from a sound world, so that a probe that leaves sound worlds alone is not noticed, and the
functions that were known stay there. -/
theorem Body.Honest.perform {s s' : Services φ γ σ} (hs : G.Serves R know s s')
    {probe : World φ σ → World φ σ}
    (hprobe : ∀ w, G.Within w → w.Sound R know → probe w = w) {i : Option (Invocation φ)}
    {b : Body φ γ σ} {K : Functions} (hb : b.Honest know K) (hK : K ≤ w.held R)
    (hi : ∀ v ∈ i.elim [] Invocation.arguments, v.Leads know.callback ≤ K)
    {r : Recorded φ} (hr : r.Sound know (w.held R)) (hw : w.Sound R know) :
    G.Sane R know (fun w' c => c.Sound know (w'.held R)) w (b.perform s i r w)
      (b.probed s' i probe r w) := by
  have hquiet (b : Body φ γ σ) (r : Recorded φ) {w : World φ σ} (hw : w.Sound R know)
      (hwithin : G.Within (b.perform s i r w).1) : probe w = w :=
    hprobe w (G.back (Body.perform_grows hs.grow i b r w) hwithin) hw
  induction b generalizing K r w with
  | done =>
      intro hwithin
      simp only [Body.probed_done, hquiet _ r hw hwithin]
      exact ⟨rfl, .refl w, hw, hr.completion⟩
  | answer v next ih =>
      intro hwithin
      simp only [Body.probed_answer, hquiet _ r hw hwithin]
      refine ih hb.2 hK hi (fun v' hv' => ?_) hw hwithin
      cases hv'
      exact hb.1.trans hK
  | fail message next ih =>
      intro hwithin
      simp only [Body.probed_fail, hquiet _ r hw hwithin]
      exact ih hb hK hi hr hw hwithin
  | call f vs next ih =>
      obtain ⟨hf, hvs, hnext⟩ := hb
      have hcall := hs.call (hf.trans hK) (fun v hv => (hvs v hv).trans hK) hw
      intro hwithin
      have hsilent := hquiet _ r hw hwithin
      refine hcall.andThen (Body.perform_grows hs.grow i _ r _) (fun hsane => ?_) hwithin
      have hK' := hK.trans hsane.later.held_le
      simp only [Body.probed_call, hsilent, hsane.same]
      exact ih _ (hnext _ _ hK' hsane.result) le_rfl (fun v hv => (hi v hv).trans hK')
        (hr.mono hsane.later.held_le) hsane.sound
  | run engine source next ih =>
      obtain ⟨hengine, hnext⟩ := hb
      have hrun := hs.run engine source (hengine.trans hK) hw
      intro hwithin
      have hsilent := hquiet _ r hw hwithin
      refine hrun.andThen (Body.perform_grows hs.grow i _ r _) (fun hsane => ?_) hwithin
      have hK' := hK.trans hsane.later.held_le
      simp only [Body.probed_run, hsilent, hsane.same]
      exact ih _ (hnext _ _ hK' hsane.result) le_rfl (fun v hv => (hi v hv).trans hK')
        (hr.mono hsane.later.held_le) hsane.sound
  | look next ih =>
      intro hwithin
      simp only [Body.probed_look, hquiet _ r hw hwithin]
      exact ih _ (hb _ hi) hK hi hr hw hwithin
  | «recall» next ih =>
      intro hwithin
      simp only [Body.probed_recall, hquiet _ r hw hwithin]
      exact ih _ (hb _ _ hK hw.host) le_rfl (fun v hv => (hi v hv).trans hK) hr hw hwithin
  | remember f next ih =>
      intro hwithin
      simp only [Body.probed_remember, hquiet _ r hw hwithin]
      have hhost := hb.1 _ _ hK hw.host
      have hremembered : ({ w with host := f w.host } : World φ σ).Sound R know :=
        hw.of_realms_eq rfl rfl List.suffix_rfl rfl hhost
      have hrest := ih (w := { w with host := f w.host }) hb.2 hK hi hr hremembered hwithin
      exact hrest.after (later_host w 0 (f w.host))
  | make f next ih =>
      intro hwithin
      simp only [Body.probed_make, hquiet _ r hw hwithin]
      obtain ⟨hhost, hvalue, hnext⟩ := hb _ w.nextValue _ hK hw.host
      have hmade : World.Sound R know
          { w with
            nextValue := w.nextValue + (f w.nextValue w.host).taken
            host := (f w.nextValue w.host).host } :=
        hw.of_realms_eq rfl rfl List.suffix_rfl rfl hhost
      have hrest := ih _ (w := { w with
        nextValue := w.nextValue + (f w.nextValue w.host).taken
        host := (f w.nextValue w.host).host }) hnext le_rfl (fun v hv => (hi v hv).trans hK) hr
        hmade hwithin
      exact hrest.after (later_host w _ _)
  | enter realm' next ih =>
      intro hwithin
      simp only [Body.probed_enter, hquiet _ r hw hwithin]
      have hentered : (w.enter realm').2.Sound R know := hw.withStacks (realm' :: w.active) hw.live
      have hrest := ih _ (w := (w.enter realm').2) (hb _) hK hi hr hentered hwithin
      exact hrest.after (later_withStacks w _ _)
  | leave g next ih =>
      intro hwithin
      simp only [Body.probed_leave, hquiet _ r hw hwithin]
      have hleft : (w.leave g).Sound R know := hw.withStacks (World.bottom g.depth w.active) hw.live
      have hrest := ih (w := w.leave g) hb hK hi hr hleft hwithin
      exact hrest.after (later_withStacks w _ _)

/-- The callback in a slot knows functions that can be held. -/
theorem Regime.Serves.invoke {s s' : Services φ γ σ} (hs : G.Serves R know s s')
    {host : Host φ γ σ} (hhost : host.Honest know) {probe : World φ σ → World φ σ}
    (hprobe : ∀ w, G.Within w → w.Sound R know → probe w = w) (r : RealmRef) (slot : UInt32)
    {arguments : List (Value φ)}
    (harguments : ∀ v ∈ arguments, v.Leads know.callback ≤ w.held R) (hw : w.Sound R know) :
    G.Sane R know (fun w' c => c.Sound know (w'.held R)) w (w.invoke host s r slot arguments)
      (w.invokeProbed probe host s' r slot arguments) := by
  unfold World.invoke World.invokeProbed
  cases hslot : (w.realm r).native? slot with
  | none => exact .recorded hw _ fun v hv => by cases hv
  | some f =>
      have hf := hw.callbacks r f (Array.mem_of_getElem? hslot)
      have hb := hhost.behave _ f ⟨r, arguments⟩ hf harguments
      exact hb.perform hs hprobe (i := some ⟨r, arguments⟩) le_rfl harguments
        (fun v hv => by cases hv) hw

/-- Generators export what they know. -/
theorem Regime.Serves.generateExports {s s' : Services φ γ σ} (hs : G.Serves R know s s')
    {host : Host φ γ σ} (hhost : host.Honest know) (g : γ)
    (hg : know.generator g ≤ w.held R) (hw : w.Sound R know) :
    G.Sane R know (fun w' n => n.Leads know.callback ≤ w'.held R) w
      (generateExports host s g w) (ScriptHost.generateExports host s' g w) := by
  have hperform := (hhost.prepare _ g hg).perform hs
    (fun _ _ _ => rfl : ∀ w : World φ σ, _ → _ → id w = w) (i := none) le_rfl
    (fun v hv => by cases hv) (r := {}) (fun v hv => by cases hv) hw
  change G.Sane R know _ w _ ((host.prepare g).perform s' none {} w) at hperform
  unfold ScriptHost.generateExports
  generalize (host.prepare g).perform s none {} w = a at hperform ⊢
  generalize (host.prepare g).perform s' none {} w = b at hperform ⊢
  refine hperform.andThen (later_host a.1 _ _).toGrows fun hsane => ?_
  obtain rfl := hsane.same
  obtain ⟨hexports, hremember⟩ := hhost.generate (b.1.held R) g b.1.nextValue b.1.host
    (hg.trans hsane.later.held_le) hsane.sound.host
  exact fun _ => .still hsane.sound rfl rfl List.suffix_rfl rfl hremember hexports

/-- Functions of other backends return what they know and what they are given. -/
theorem Regime.Serves.act {s s' : Services φ γ σ} (hs : G.Serves R know s s')
    {host : Host φ γ σ} (hhost : host.Honest know) (backend : String)
    {arguments : List (Value φ)}
    (harguments : ∀ v ∈ arguments, v.Leads know.callback ≤ w.held R) (hw : w.Sound R know) :
    G.Sane R know (fun w' c => c.Sound know (w'.held R)) w
      ((host.act backend arguments).perform s none {} w)
      ((host.act backend arguments).perform s' none {} w) :=
  (hhost.act _ backend arguments w.host hw.host harguments).perform hs
    (fun _ _ _ => rfl : ∀ w : World φ σ, _ → _ → id w = w) (i := none) le_rfl
    (fun v hv => by cases hv) (fun v hv => by cases hv) hw

/-! ## Making a realm -/

/-- The same bound where no code is at work. -/
def Regime.quiet (G : Regime φ σ) : Regime φ σ :=
  { G with
    At := fun _ _ => True
    stays := fun _ _ => trivial
    enters := fun _ _ _ => trivial }

theorem Regime.refusing_answers : G.quiet.Answers R know refusing refusing where
  bound _ _ w := G.frame.refl w
  sane _ hw _ := .unchanged hw.sound trivial

namespace Regime.Answers

variable [LawfulMachine] {d d' : Dispatcher φ σ} (A : G.Answers R know d d')

include A

/-- A namespace goes into a realm that no script has touched.  Nothing asks the host then, so
it does not matter that the realm is not active yet. -/
private theorem install_made (hpq : q.stack = p.stack) (left : Script.Stack) (n : Namespace φ)
    {limit : Option Nat} (hn : n.Leads know.callback ≤ w.held R) (hr : r < w.realms.size)
    (hnew : r ∉ w.live) (hheap : w.heap r = { Heap.standard with memory := limit })
    (hw : w.Sound R know) :
    G.Sane R know (fun _ _ => True) w
      (w.withContextBy p r left fun context stack w' =>
        n.install ⟨d, context, r, stack⟩ Script.Place.global w')
      (w.withContextBy q r left fun context stack w' =>
        n.install ⟨d', context, r, stack⟩ Script.Place.global w') := by
  intro hwithin
  refine Sane.inContext hpq (fun _ _ _ _ => id) (fun _ _ => trivial) left
    (fun context stack w' => (A.grown.install (c := ⟨d, context, r, stack⟩) n _ ⟨⟩).bound)
    hw (fun _ hlive => ?_) (fun stack _ _ => ?_) hwithin
  · exact absurd hlive hnew
  · have hs : ({ w with live := r :: w.live } : World φ σ).Sound R know :=
      hw.withStacks w.active (hw.live_cons hr)
    have hglobal : R.Allows (w.heap r).size Script.Place.global := (hw.heaps r).place (by decide)
    have hready : G.quiet.Ready R know r { w with live := r :: w.live } := ⟨trivial, hr, hs⟩
    have hquiet := (Regime.refusing_answers (G := G)).install
      (w := { w with live := r :: w.live }) stack n hn hglobal hready
    have hrefused (e : Dispatcher φ σ) :
        Settles Grows { w with live := r :: w.live }
          (n.install ⟨refusing, r, r, stack⟩ Script.Place.global { w with live := r :: w.live })
          (n.install ⟨e, r, r, stack⟩ Script.Place.global { w with live := r :: w.live }) :=
      Comparison.installFresh Grows.frame _ n hr hheap
    rw [(hrefused d).same, (hrefused d').same]
    exact hquiet

theorem createRealmBy (hpq : q.stack = p.stack) (left : Script.Stack) (config : EngineConfig)
    (n : Namespace φ) (hn : n.Leads know.callback ≤ w.held R) (hw : w.Sound R know) :
    G.Sane R know (fun _ _ => True) w (createRealmBy p d left config n w)
      (ScriptHost.createRealmBy q d' left config n w) := by
  unfold ScriptHost.createRealmBy
  split
  · let heap := { Heap.standard with memory := config.runtime.memory.map UInt64.toNat }
    have hfresh : (RealmState.script heap).Fresh :=
      RealmState.fresh_withMemory RealmState.fresh_standard (config.runtime.memory.map UInt64.toNat)
    have hlater : w.Later _ := .addRealm w scriptBackend (Machine.stack config.runtime) hfresh
    have hmade := hw.addRealm scriptBackend (Machine.stack config.runtime) hfresh
    have hheap := w.heap_addRealm_self scriptBackend heap (Machine.stack config.runtime)
    have hsize := w.size_addRealm scriptBackend (.script heap) (Machine.stack config.runtime)
    have hnew : w.realms.size ∉ (w.addRealm scriptBackend (.script heap)
        (Machine.stack config.runtime)).2.live := fun hlive => Nat.lt_irrefl _ (hw.live _ hlive)
    simp only [World.ref_addRealm]
    generalize (w.addRealm scriptBackend (.script heap) (Machine.stack config.runtime)).2 = w₁
      at hlater hmade hheap hsize hnew ⊢
    have hin := A.install_made hpq left n (hn.trans hlater.held_le)
      (hsize ▸ Nat.lt_succ_self _) hnew hheap hmade
    generalize w₁.withContextBy p w.realms.size left _ = a at hin ⊢
    generalize w₁.withContextBy q w.realms.size left _ = b at hin ⊢
    refine fun hwithin => SaneResult.after hlater (hin.andThen ?_ (fun hsane => ?_) hwithin)
    · obtain ⟨w', e | u⟩ := a
      · exact .refl w'
      · exact (later_record w' _).toGrows
    · obtain rfl := hsane.same
      obtain ⟨w', e | u⟩ := b
      · exact .unchanged hsane.sound trivial
      · exact .recorded hsane.sound _ trivial
  · exact .unchanged hw trivial

/-! ## Runs and calls -/

/-- A source is run in a realm that was just made. -/
theorem runExports (hpq : q.stack = p.stack) (left : Script.Stack) (config : EngineConfig)
    (source : String) {n : Namespace φ} (hn : n.Leads know.callback ≤ w.held R)
    (hw : w.Sound R know) :
    G.Sane R know (fun w' x => Known know (w'.held R) x) w
      (runExportsBy p d left config n source w) (runExportsBy q d' left config n source w) := by
  have hcreate := A.createRealmBy hpq left config n hn hw
  unfold runExportsBy executeBy
  generalize ScriptHost.createRealmBy p d left config n w = a at hcreate ⊢
  generalize ScriptHost.createRealmBy q d' left config n w = b at hcreate ⊢
  refine hcreate.andThen ?_ fun hsane => ?_
  · obtain ⟨w₂, e | r⟩ := a
    · exact .refl w₂
    · have hrecord := (later_record w₂
        (.running source.utf8ByteSize (w₂.idOf r) w₂.depth)).toGrows
      exact hrecord.trans (Grows.frame.active r
        (withContextBy_bound Grows.frame _ r left fun context stack w' =>
          (A.grown.runSource (c := ⟨d, context, r, stack⟩) source (w := w') ⟨⟩).bound))
  · obtain rfl := hsane.same
    obtain ⟨w₂, e | r⟩ := b
    · exact .unchanged hsane.sound (known_error w₂ e)
    · dsimp only
      refine fun hwithin => SaneResult.after (later_record w₂ _)
        (Sane.entered hpq stackless_known known_error r left (fun context stack w' => ?_)
          (hsane.sound.record _) (fun stack w' _ hready => ?_) hwithin)
      · exact (A.grown.runSource (c := ⟨d, context, r, stack⟩) source ⟨⟩).bound
      · exact A.runSource stack source hready

theorem runWithBy (hpq : q.stack = p.stack) {host : Host φ γ σ} (hhost : host.Honest know)
    {s s' : Services φ γ σ} (hs : G.Serves R know s s') (left : Script.Stack) (engine : Engine γ)
    (source : String) (hengine : know.generator engine.generator ≤ w.held R)
    (hw : w.Sound R know) :
    G.Sane R know (fun w' x => Known know (w'.held R) x) w
      (runWithBy p host s d left engine source w)
      (ScriptHost.runWithBy q host s' d' left engine source w) := by
  have hgen := hs.generateExports hhost engine.generator hengine hw
  unfold ScriptHost.runWithBy
  generalize generateExports host s engine.generator w = a at hgen ⊢
  generalize generateExports host s' engine.generator w = b at hgen ⊢
  refine hgen.andThen (runExportsBy_bound Grows.frame A.grow left engine.config a.2 source a.1)
    fun hsane => ?_
  obtain rfl := hsane.same
  exact A.runExports hpq left engine.config source hsane.result hsane.sound

theorem callWithBy (hpq : q.stack = p.stack) {host : Host φ γ σ} (hhost : host.Honest know)
    {s s' : Services φ γ σ} (hs : G.Serves R know s s') (left : Script.Stack) {f : FunctionRef}
    {arguments : List (Value φ)} (hf : f.Leads ≤ w.held R)
    (harguments : ∀ v ∈ arguments, v.Leads know.callback ≤ w.held R) (hw : w.Sound R know) :
    G.Sane R know (fun w' x => Known know (w'.held R) x) w
      (callWithBy p host s d left f arguments w)
      (ScriptHost.callWithBy q host s' d' left f arguments w) := by
  cases f with
  | foreign backend =>
      have hact := hs.act hhost backend harguments hw
      simp only [ScriptHost.callWithBy]
      generalize (host.act backend arguments).perform s none {} w = a at hact ⊢
      generalize (host.act backend arguments).perform s' none {} w = b at hact ⊢
      refine hact.andThen (.refl _) fun hsane => ?_
      obtain rfl := hsane.same
      exact .unchanged hsane.sound
        (hhost.outcome _ _ _ hsane.result hsane.sound.host)
  | captured r o =>
      have hrecord := later_record w (.calling (w.idOf r) arguments.length)
      have hsound := hw.record (.calling (w.idOf r) arguments.length)
      simp only [ScriptHost.callWithBy]
      refine fun hwithin => SaneResult.after hrecord (Sane.entered hpq stackless_known known_error
        r left (fun context stack w' => ?_) hsound (fun stack w' hlater hready => ?_) hwithin)
      · exact (A.grown.callContext (c := ⟨d, context, r, stack⟩) _ arguments ⟨⟩).bound
      · have hheld : w.held R ≤ w'.held R := (hrecord.trans hlater).held_le
        exact A.callContext stack (hf.trans hheld) (fun v hv => (harguments v hv).trans hheld)
          hready

theorem servesBy (hpq : q.stack = p.stack) {host : Host φ γ σ} (hhost : host.Honest know)
    (left : Script.Stack) :
    G.Serves R know (servicesBy p host d left) (servicesBy q host d' left) := by
  have hwithin (n : Nat) :
      G.Serves R know (servicesWithinBy p host d left n) (servicesWithinBy q host d' left n) := by
    induction n with
    | zero =>
        exact ⟨⟨fun _ _ w => .refl w, fun _ _ w => .refl w⟩,
          fun _ _ hw => .unchanged hw (known_error _ _),
          fun _ _ _ _ hw => .unchanged hw (known_error _ _)⟩
    | succ n ih =>
        exact ⟨⟨fun f arguments w => callWithBy_bound Grows.frame A.grow host.settled_grows
              ih.grow.alike left f arguments w,
            fun engine source w => runWithBy_bound Grows.frame A.grow host.settled_grows
              ih.grow.alike left engine source w⟩,
          fun hf harguments hw => A.callWithBy hpq hhost ih left hf harguments hw,
          fun engine source _ hengine hw => A.runWithBy hpq hhost ih left engine source hengine hw⟩
  exact hwithin _

theorem serves {host : Host φ γ σ} (hhost : host.Honest know) (left : Script.Stack) :
    G.Serves R know (services host d left) (services host d' left) := by
  rw [← servicesBy_usual, ← servicesBy_usual]
  exact A.servesBy rfl hhost left

theorem createRealm (left : Script.Stack) (config : EngineConfig) (n : Namespace φ)
    (hn : n.Leads know.callback ≤ w.held R) (hw : w.Sound R know) :
    G.Sane R know (fun _ _ => True) w (createRealm d left config n w)
      (ScriptHost.createRealm d' left config n w) := by
  have hsane := A.createRealmBy (p := .usual) rfl left config n hn hw
  rwa [createRealmBy_usual, createRealmBy_usual] at hsane

end Regime.Answers

/-! ## Host calls -/

namespace Regime.Answers

variable [LawfulMachine] {d d' : Dispatcher φ σ} (A : G.Answers R know d d')

include A

/-- A host call is answered by a callback of the realm that it is from. -/
theorem answerWith
    (invoke invoke' : RealmRef → UInt32 → List (Value φ) → World φ σ → World φ σ × Completion φ)
    (hkeeps : ∀ r slot arguments w, G.Rel w (invoke r slot arguments w).1)
    (hinvoke : ∀ slot arguments {w : World φ σ}, w.Sound R know →
      (∀ v ∈ arguments, v.Leads know.callback ≤ w.held R) →
        G.Sane R know (fun w' c => c.Sound know (w'.held R)) w (invoke r slot arguments w)
          (invoke' r slot arguments w))
    {call : Script.HostCall} (hcall : call.Sound R (w.heap r)) (hw : G.Ready R know r w) :
    G.Sane R know (fun w' reply => reply.Sound R (w'.heap r).size) w
      (answerWith (fun w => w.callerBy? p r call.key.realm) invoke d r call w)
      (ScriptHost.answerWith (fun w => w.callerBy? q r call.key.realm) invoke' d' r call w) := by
  have hgrows : Grows w
      (ScriptHost.answerWith (fun w => w.callerBy? p r call.key.realm) invoke d r call w).1 :=
    G.grows (answerWith_bound G.frame A.bound hkeeps r call w)
  intro hwithin
  have hfew := G.few (G.back hgrows hwithin)
  have hcaller (p : Policy) := hw.sound.callerBy?_eq hfew p hw.made hcall
  unfold ScriptHost.answerWith at hwithin ⊢
  beta_reduce at hwithin ⊢
  rw [hcaller p, hcaller q]
  rw [hcaller p] at hwithin
  by_cases hactive : r ∈ w.active
  · rw [if_pos hactive] at hwithin ⊢
    have hvalues := A.toValues call.stack hcall.arguments hw
    have hbound := (A.kept.toValues (c := ⟨d, r, r, call.stack⟩) call.arguments (w := w) ⟨⟩).bound
    dsimp only at hwithin ⊢
    generalize Crossing.toValues ⟨d, r, r, call.stack⟩ call.arguments w = a
      at hvalues hbound hwithin ⊢
    generalize Crossing.toValues ⟨d', r, r, call.stack⟩ call.arguments w = b at hvalues ⊢
    refine hvalues.andThen ?_ (fun hsane => ?_) hwithin
    · obtain ⟨w', e | arguments⟩ := a
      · exact .refl w'
      · exact (G.grows (hkeeps r call.key.slot arguments w')).trans
          (A.grown.reply (c := ⟨d, r, r, call.stack⟩) _ ⟨⟩).bound
    · have hw' := hw.after hsane hbound
      obtain rfl := hsane.same
      obtain ⟨w', e | arguments⟩ := b
      · exact .unchanged hsane.sound trivial
      · have hsaneInvoke := hinvoke call.key.slot arguments hsane.sound
          (hsane.result arguments rfl)
        have hkept := hkeeps r call.key.slot arguments w'
        dsimp only at hkept hsaneInvoke ⊢
        generalize invoke r call.key.slot arguments w' = c at hsaneInvoke hkept ⊢
        generalize invoke' r call.key.slot arguments w' = c' at hsaneInvoke ⊢
        refine hsaneInvoke.andThen (A.grown.reply (c := ⟨d, r, r, call.stack⟩) c.2 (w := c.1)
          ⟨⟩).bound fun hsane' => ?_
        obtain rfl := hsane'.same
        exact A.reply call.stack hsane'.result (hw'.after hsane' hkept)
  · rw [if_neg hactive] at hwithin ⊢
    exact Sane.recorded hw.sound _ trivial hwithin

/-- A probe that leaves sound worlds alone is not noticed by a host call. -/
theorem answer {host : Host φ γ σ} (hhost : host.Honest know) {probe : World φ σ → World φ σ}
    (hprobe : ∀ w, G.Within w → w.Sound R know → probe w = w)
    (hkeeps : ∀ left f i w,
      G.Rel w ((host.behave f i).perform (services host d left) (some i) {} w).1)
    {call : Script.HostCall} (hcall : call.Sound R (w.heap r)) (hw : G.Ready R know r w) :
    G.Sane R know (fun w' reply => reply.Sound R (w'.heap r).size) w (answer host d r call w)
      (answerProbed probe host d' r call w) :=
  A.answerWith (p := .usual) (q := .usual)
    (fun r slot arguments w => w.invoke host (services host d call.stack) r slot arguments)
    (fun r slot arguments w =>
      w.invokeProbed probe host (services host d' call.stack) r slot arguments)
    (fun r slot arguments w => invoke_bound G.frame (hkeeps call.stack) r slot arguments w)
    (fun slot _ _ hw' harguments =>
      (A.serves hhost call.stack).invoke hhost hprobe r slot harguments hw')
    hcall hw

/-- Nor is it noticed that no identifiers are looked up. -/
theorem answerBy (hpq : q.stack = p.stack) {host : Host φ γ σ} (hhost : host.Honest know)
    (hkeeps : ∀ left f i w,
      G.Rel w ((host.behave f i).perform (servicesBy p host d left) (some i) {} w).1)
    {call : Script.HostCall} (hcall : call.Sound R (w.heap r)) (hw : G.Ready R know r w) :
    G.Sane R know (fun w' reply => reply.Sound R (w'.heap r).size) w
      (answerBy p host d r call w) (ScriptHost.answerBy q host d' r call w) := by
  exact A.answerWith
    (fun r slot arguments w => w.invoke host (servicesBy p host d call.stack) r slot arguments)
    (fun r slot arguments w => w.invoke host (servicesBy q host d' call.stack) r slot arguments)
    (fun r slot arguments w => invoke_bound G.frame (hkeeps call.stack) r slot arguments w)
    (fun slot arguments w' hw' harguments => (A.servesBy hpq hhost call.stack).invoke hhost
      (fun _ _ _ => rfl : ∀ w : World φ σ, _ → _ → id w = w) r slot harguments hw') hcall hw

end Regime.Answers

/-- Host calls are answered sanely at every nesting, and alike with probes: those deeper inside
are not noticed, so neither are those of the callback that answers. -/
theorem Regime.dispatcher_answers [LawfulMachine] {host : Host φ γ σ} (hhost : host.Honest know)
    {probe : World φ σ → World φ σ} (hprobe : ∀ w, G.Within w → w.Sound R know → probe w = w)
    (hbound : ∀ n context call w, G.Rel w (dispatcher host n context call w).1)
    (hkeeps : ∀ n left f i w,
      G.Rel w ((host.behave f i).perform (services host (dispatcher host n) left) (some i) {} w).1)
    (n : Nat) : G.Answers R know (dispatcher host n) (probedDispatcher probe host n) := by
  induction n with
  | zero => exact ⟨hbound 0, fun _ hw _ => .unchanged hw.sound trivial⟩
  | succ n ih =>
      exact ⟨hbound (n + 1), fun call hw hcall => ih.answer hhost hprobe (hkeeps n) hcall hw⟩

/-- Host calls are answered sanely at every nesting, and alike by policies that agree about the
stack. -/
theorem Regime.dispatcherBy_answers [LawfulMachine] (hpq : q.stack = p.stack) {host : Host φ γ σ}
    (hhost : host.Honest know)
    (hbound : ∀ n context call w, G.Rel w (dispatcherBy p host n context call w).1)
    (hkeeps : ∀ n left f i w,
      G.Rel w ((host.behave f i).perform (servicesBy p host (dispatcherBy p host n) left)
        (some i) {} w).1)
    (n : Nat) : G.Answers R know (dispatcherBy p host n) (dispatcherBy q host n) := by
  induction n with
  | zero => exact ⟨hbound 0, fun _ hw _ => .unchanged hw.sound trivial⟩
  | succ n ih =>
      exact ⟨hbound (n + 1), fun call hw hcall => ih.answerBy hpq hhost (hkeeps n) hcall hw⟩

/-! ## The weakest regime -/

/-- Fewer than `2 ^ 32` realms are asked for, and nothing else. -/
def Regime.roaming : Regime φ σ where
  Within w := w.realms.size < 2 ^ 32
  few := id
  back hg h := Nat.lt_of_le_of_lt hg.size_le h
  Rel := Grows
  frame := Grows.frame
  grows := id
  At _ _ := True
  stays _ _ := trivial
  enters _ _ _ := trivial

end ScriptHost
