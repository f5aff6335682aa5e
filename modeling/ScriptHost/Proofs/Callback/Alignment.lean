import ScriptHost.Proofs.Callback.Stacks
import ScriptHost.Proofs.World.Grows

/-!
# No engine is entered twice

The two stacks grow by different rules.  Every call makes its realm active; only a realm
that is not live yet is entered, and a realm that is being made is live for a while
without being active.  Whenever a callback is at work the two agree all the same: the
identifiers of the live realms are those of the active ones, each listed once, where it
was entered first.  With the innermost realm in front that is `List.dedup`, which keeps
the last of equal entries.

The invariant is `Aligned`.  It is lost when a realm becomes active and found again when
its context is there, and nothing asks the host in between.  What it says to a maintainer
is `EnteredOnce`, and the probes of `Probe` are how one sees that it holds at every step
of every callback.
-/

namespace ScriptHost

variable {φ γ σ : Type}

/-! ## The two stacks agree -/

/-- The realms on both stacks exist, and the live ones are the active ones without
repetitions. -/
structure Aligned (w : World φ σ) : Prop where
  numbered : w.Numbered
  active_exists : ∀ r ∈ w.active, r < w.realms.size
  live_exists : ∀ r ∈ w.live, r < w.realms.size
  ids : w.live.map w.idOf = (w.active.map w.idOf).dedup

/-- No engine is entered while it is at work, and whoever asks for a context gets that of
the realm that was asked for. -/
structure EnteredOnce (w : World φ σ) : Prop where
  /-- No identifier is live twice. -/
  nodup : (w.live.map w.idOf).Nodup
  /-- The live identifiers are the active ones, each where it was first. -/
  ids : w.live.map w.idOf = (w.active.map w.idOf).dedup
  /-- An engine is entered if and only if its realm is at work nowhere further up. -/
  enters (r : RealmRef) : r < w.realms.size →
    (w.context? r = none ↔ w.idOf r ∉ w.active.map w.idOf)
  /-- A context that is there is a live one, and carries the identifier. -/
  belongs (r context : RealmRef) : w.context? r = some context →
    context ∈ w.live ∧ w.idOf context = w.idOf r
  /-- Among fewer than `2 ^ 32` realms it is that of the realm itself. -/
  reuses (r context : RealmRef) : w.realms.size < 2 ^ 32 → w.context? r = some context →
    context = r

/-! ## What a context says about the stacks -/

namespace World

variable {w : World φ σ} {r context : RealmRef}

theorem context?_eq_none (hr : r < w.realms.size) :
    w.context? r = none ↔ w.idOf r ∉ w.live.map w.idOf := by
  rw [context?, if_pos hr, findLive?, List.find?_eq_none]
  simp only [beq_iff_eq, List.mem_map, not_exists, not_and]

end World

namespace Aligned

variable {w w' : World φ σ} {r context : RealmRef}

theorem start (host : σ) : Aligned (World.start host : World φ σ) :=
  ⟨.start host, fun _ h => absurd h List.not_mem_nil, fun _ h => absurd h List.not_mem_nil, rfl⟩

theorem mem_live_ids (h : Aligned w) (id : UInt32) :
    id ∈ w.live.map w.idOf ↔ id ∈ w.active.map w.idOf := by
  rw [h.ids, List.mem_dedup]

theorem enteredOnce (h : Aligned w) : EnteredOnce w where
  nodup := by
    rw [h.ids]
    exact List.nodup_dedup _
  ids := h.ids
  enters r hr := by rw [World.context?_eq_none hr, h.mem_live_ids]
  belongs r context hc := World.mem_live_of_context? hc
  reuses r context hfew hc := by
    obtain ⟨hlive, hid⟩ := World.mem_live_of_context? hc
    exact h.numbered.id_inj hfew (h.live_exists _ hlive) (World.lt_size_of_context? hc) hid

/-- Whatever leaves the stacks alone and only adds to the world keeps them aligned. -/
theorem stable (h : Aligned w) (hs : SameStacks w w') (hg : Grows w w') : Aligned w' := by
  have hids {stack : List RealmRef} (hstack : ∀ r ∈ stack, r < w.realms.size) :
      stack.map w'.idOf = stack.map w.idOf :=
    List.map_congr_left fun r hr => hg.id_eq r (hstack r hr)
  refine ⟨hg.numbered h.numbered, fun r hr => ?_, fun r hr => ?_, ?_⟩
  · rw [hs.active] at hr
    exact Nat.lt_of_lt_of_le (h.active_exists r hr) hg.size_le
  · rw [hs.live] at hr
    exact Nat.lt_of_lt_of_le (h.live_exists r hr) hg.size_le
  · rw [hs.active, hs.live, hids h.active_exists, hids h.live_exists]
    exact h.ids

/-- Entering a realm whose context is there repeats an identifier further up. -/
theorem again (h : Aligned w) (hc : w.context? r = some context) : Aligned (w.enter r).2 := by
  obtain ⟨hlive, hid⟩ := World.mem_live_of_context? hc
  have hmem : w.idOf r ∈ w.active.map w.idOf := by
    rw [← h.mem_live_ids, ← hid]
    exact List.mem_map_of_mem hlive
  refine ⟨⟨h.numbered.next, h.numbered.id⟩, fun s hs => ?_, h.live_exists, ?_⟩
  · rcases List.mem_cons.mp hs with rfl | hs
    · exact World.lt_size_of_context? hc
    · exact h.active_exists s hs
  · change w.live.map w.idOf = (w.idOf r :: w.active.map w.idOf).dedup
    rw [List.dedup_cons_of_mem hmem]
    exact h.ids

/-- Entering a realm with its engine puts a new identifier on both stacks. -/
theorem first (h : Aligned w) (hr : r < w.realms.size) (hc : w.context? r = none) :
    Aligned { (w.enter r).2 with live := r :: w.live } := by
  have hnew : w.idOf r ∉ w.active.map w.idOf := by
    rw [← h.mem_live_ids]
    exact (World.context?_eq_none hr).mp hc
  have hcons {stack : List RealmRef} (hstack : ∀ s ∈ stack, s < w.realms.size) :
      ∀ s ∈ r :: stack, s < w.realms.size := by
    intro s hs
    rcases List.mem_cons.mp hs with rfl | hs
    · exact hr
    · exact hstack s hs
  refine ⟨⟨h.numbered.next, h.numbered.id⟩, hcons h.active_exists, hcons h.live_exists, ?_⟩
  change w.idOf r :: w.live.map w.idOf = (w.idOf r :: w.active.map w.idOf).dedup
  rw [List.dedup_cons_of_notMem hnew, h.ids]

theorem entering : Entering (Aligned (φ := φ) (σ := σ)) := ⟨again, first⟩

end Aligned

/-! ## Callbacks that take no guards -/

/-- The callback makes no realm active by itself. -/
def Body.Guardless : Body φ γ σ → Prop
  | .done => True
  | .answer _ next => next.Guardless
  | .fail _ next => next.Guardless
  | .call _ _ next => ∀ x, (next x).Guardless
  | .run _ _ next => ∀ x, (next x).Guardless
  | .look next => ∀ x, (next x).Guardless
  | .recall next => ∀ x, (next x).Guardless
  | .remember _ next => next.Guardless
  | .make _ next => ∀ x, (next x).Guardless
  | .enter _ _ => False
  | .leave _ _ => False

/-- Whatever the host does, it makes no realm active by itself. -/
def Host.Guardless (host : Host φ γ σ) : Prop := ∀ {i b}, host.Takes i b → b.Guardless

/-- The stacks are the same, and nothing else is lost. -/
def Keeps (w w' : World φ σ) : Prop := SameStacks w w' ∧ Grows w w'

theorem Keeps.frame : Frame (Keeps (φ := φ) (σ := σ)) := SameStacks.frame.and Grows.frame

theorem Aligned.keeps {w w' : World φ σ} (h : Aligned w) (hk : Keeps w w') : Aligned w' :=
  h.stable hk.1 hk.2

variable {probe : World φ σ → World φ σ}

/-- A callback that takes no guards goes on alike with a probe in front of each of its steps, as
each step starts from an aligned world. -/
theorem Body.Guardless.perform {s s' : Services φ γ σ} (hs : s.Alike Aligned Keeps s')
    (hprobe : ∀ w, Aligned w → probe w = w) (i : Option (Invocation φ)) {b : Body φ γ σ}
    (hb : b.Guardless) (r : Recorded φ) {w : World φ σ} (hw : Aligned w) :
    Settles Keeps w (b.perform s i r w) (b.probed s' i probe r w) := by
  induction b generalizing r w with
  | done => exact ⟨by simp only [Body.probed_done, hprobe w hw]; rfl, Keeps.frame.refl w⟩
  | answer v next ih =>
      simp only [Body.probed_answer, hprobe w hw]
      exact ih hb _ hw
  | fail message next ih =>
      simp only [Body.probed_fail, hprobe w hw]
      exact ih hb _ hw
  | call f vs next ih =>
      obtain ⟨hsame, hbound⟩ := hs.call f vs hw
      simp only [Body.probed_call, hprobe w hw, hsame]
      exact (ih _ (hb _) r (hw.keeps hbound)).after Keeps.frame hbound
  | run engine source next ih =>
      obtain ⟨hsame, hbound⟩ := hs.run engine source hw
      simp only [Body.probed_run, hprobe w hw, hsame]
      exact (ih _ (hb _) r (hw.keeps hbound)).after Keeps.frame hbound
  | look next ih =>
      simp only [Body.probed_look, hprobe w hw]
      exact ih _ (hb _) r hw
  | «recall» next ih =>
      simp only [Body.probed_recall, hprobe w hw]
      exact ih _ (hb _) r hw
  | remember f next ih =>
      have hhost : Keeps w { w with host := f w.host } := Keeps.frame.host w 0 (f w.host)
      simp only [Body.probed_remember, hprobe w hw]
      exact (ih hb r (hw.keeps hhost)).after Keeps.frame hhost
  | make f next ih =>
      have hhost := Keeps.frame.host w (f w.nextValue w.host).taken (f w.nextValue w.host).host
      simp only [Body.probed_make, hprobe w hw]
      exact (ih _ (hb _) r (hw.keeps hhost)).after Keeps.frame hhost
  -- callbacks that hold no guards take neither of these steps
  | enter realm' next ih => exact hb.elim
  | leave g next ih => exact hb.elim

theorem Host.Guardless.settled {host : Host φ γ σ} (hg : host.Guardless) :
    host.Settled Aligned Keeps :=
  fun hs i _ hb r _ hw => (hg hb).perform hs (fun _ _ => rfl : ∀ w, _ → id w = w) i r hw

section

variable [Machine] [LawfulMachine]

/-! ## Nested runs and calls -/

theorem services_alike {host : Host φ γ σ} (hg : host.Guardless) {d d' : Dispatcher φ σ}
    (C : Comparison Aligned Keeps d d') (left : Script.Stack) :
    (services host d left).Alike Aligned Keeps (services host d' left) :=
  C.services Aligned.entering hg.settled left

/-- Host calls are answered alike with probes at every nesting: those deeper inside are not
noticed, so neither are those of the callback that answers. -/
theorem probedDispatcher_alike {host : Host φ γ σ} (hg : host.Guardless)
    (hprobe : ∀ w, Aligned w → probe w = w) (n : Nat) :
    Comparison Aligned Keeps (dispatcher host n) (probedDispatcher probe host n) := by
  induction n with
  | zero => exact ⟨Keeps.frame, Aligned.keeps, fun _ _ _ => .refl Keeps.frame _⟩
  | succ n ih =>
      refine ⟨Keeps.frame, Aligned.keeps, fun context call hw => ?_⟩
      exact ih.answer (fun left f i _ hw =>
        (hg (.callback f i)).perform (services_alike hg ih left) hprobe _ {} hw) context call hw

theorem invoke_alike {host : Host φ γ σ} (hg : host.Guardless)
    (hprobe : ∀ w, Aligned w → probe w = w) (n : Nat) (left : Script.Stack) (r : RealmRef)
    (slot : UInt32) (arguments : List (Value φ)) {w : World φ σ} (hw : Aligned w) :
    Settles Keeps w (w.invoke host (services host (dispatcher host n) left) r slot arguments)
      (w.invokeProbed probe host (services host (probedDispatcher probe host n) left) r slot
        arguments) := by
  have C := probedDispatcher_alike hg hprobe n
  exact C.invoke (fun f i _ hw =>
    (hg (.callback f i)).perform (services_alike hg C left) hprobe _ {} hw) r slot arguments hw

/-! ## Every reachable world -/

/-- The worlds that a host reaches that makes no realm active by itself: it runs, calls,
makes realms of either kind, hands callbacks to them, invokes callbacks, and uses what it
remembers and makes. -/
inductive Host.Reaches (host : Host φ γ σ) : World φ σ → Prop
  | start (s : σ) : host.Reaches (.start s)
  | run (engine : Engine γ) (source : String) {w : World φ σ} :
      host.Reaches w → host.Reaches (host.run engine source w).1
  | call (f : FunctionRef) (arguments : List (Value φ)) {w : World φ σ} :
      host.Reaches w → host.Reaches (host.call f arguments w).1
  | createRealm (config : EngineConfig) (n : Namespace φ) {w : World φ σ} :
      host.Reaches w → host.Reaches (host.createRealm config n w).1
  | addRealm (backend s : String) (stack : Script.Stack) {w : World φ σ} :
      host.Reaches w → host.Reaches (w.addRealm backend (.text s) stack).2
  | register (r : RealmRef) (f : φ) {w : World φ σ} :
      host.Reaches w → host.Reaches (w.register r f).2
  | invoke (r : RealmRef) (slot : UInt32) (arguments : List (Value φ)) {w : World φ σ} :
      host.Reaches w → host.Reaches (host.invoke r slot arguments w).1
  | remember (taken : Nat) (s : σ) {w : World φ σ} :
      host.Reaches w →
        host.Reaches { w with nextValue := w.nextValue + taken, host := s }

theorem Host.Reaches.aligned {host : Host φ γ σ} (hg : host.Guardless) {w : World φ σ}
    (h : host.Reaches w) : Aligned w := by
  have C (n : Nat) := probedDispatcher_alike hg (fun w _ => rfl : ∀ w, Aligned w → id w = w) n
  induction h with
  | start s => exact .start s
  | run engine source _ ih =>
      exact ih.keeps ((services_alike hg (C _) _).run engine source ih).bound
  | call f arguments _ ih =>
      exact ih.keeps ((services_alike hg (C _) _).call f arguments ih).bound
  | createRealm config n _ ih => exact ih.keeps ((C _).createRealm _ config n ih).bound
  | addRealm backend s stack _ ih => exact ih.keeps (Keeps.frame.addRealm _ backend _ stack)
  | register r f _ ih => exact ih.keeps (Keeps.frame.register _ r f)
  | invoke r slot arguments _ ih =>
      exact ih.keeps (invoke_alike hg (fun _ _ => rfl : ∀ w, Aligned w → id w = w) _ _ r slot
        arguments ih).bound
  | remember taken s _ ih => exact ih.keeps (Keeps.frame.host _ taken s)

/-- From every reachable world on, no callback at any depth of nesting notices a probe that
would show when an engine was entered twice. -/
theorem engines_entered_once {host : Host φ γ σ} (hg : host.Guardless)
    (hprobe : ∀ w, EnteredOnce w → probe w = w) {w : World φ σ} (hw : host.Reaches w)
    (n : Nat) (left : Script.Stack) :
    EnteredOnce w ∧
      (∀ engine source,
        runEngine host (probedDispatcher probe host n) left engine source w =
          runEngine host (dispatcher host n) left engine source w) ∧
      (∀ f arguments,
        callFunction host (probedDispatcher probe host n) left f arguments w =
          callFunction host (dispatcher host n) left f arguments w) ∧
      (∀ config exports,
        createRealm (probedDispatcher probe host n) left config exports w =
          createRealm (dispatcher host n) left config exports w) ∧
      ∀ r slot arguments,
        w.invokeProbed probe host (services host (probedDispatcher probe host n) left) r slot
            arguments =
          w.invoke host (services host (dispatcher host n) left) r slot arguments := by
  have hquiet (w : World φ σ) (ha : Aligned w) : probe w = w := hprobe w ha.enteredOnce
  have ha := hw.aligned hg
  have C := probedDispatcher_alike hg hquiet n
  refine ⟨ha.enteredOnce, fun engine source => ?_, fun f arguments => ?_,
    fun config exports => ?_, fun r slot arguments => ?_⟩
  · exact ((services_alike hg C left).run engine source ha).same
  · exact ((services_alike hg C left).call f arguments ha).same
  · exact (C.createRealm left config exports ha).same
  · exact (invoke_alike hg hquiet n left r slot arguments ha).same

end

/-- A host whose one callback calls the function that it is given with itself, and then
runs a source whose realm gets the same callback. -/
def bouncingHost : Host Unit Unit Bool where
  behave _ i :=
    match i.argument 0 with
    | .function id f =>
      .call f [.function id f] fun _ => .run ⟨{}, ()⟩ "f(f)" fun _ => .done
    | _ => .done
  generate _ _ alarm := ⟨.entry "f" (.callback ()) .empty, 0, alarm⟩

open Classical in
/-- The probe that raises an alarm when an engine was entered twice. -/
noncomputable def alarm (w : World Unit Bool) : World Unit Bool :=
  if EnteredOnce w then w else { w with host := true }

theorem engines_entered_once_bouncingHost :
    bouncingHost.Guardless ∧
      runEngine bouncingHost (probedDispatcher alarm bouncingHost 5) (Machine.stack {}) ⟨{}, ()⟩
          "f(x => f(x)); f" (.start false) =
        runEngine bouncingHost (dispatcher bouncingHost 5) (Machine.stack {}) ⟨{}, ()⟩
          "f(x => f(x)); f" (.start false) := by
  have hg : bouncingHost.Guardless := by
    intro i b hbody
    cases hbody with
    | callback f i =>
        simp only [bouncingHost]
        split
        · exact fun _ _ => trivial
        · trivial
    | generator g => trivial
    | function backend arguments => trivial
  have hprobe (w : World Unit Bool) (h : EnteredOnce w) : alarm w = w := if_pos h
  exact ⟨hg, (engines_entered_once hg hprobe (.start false) 5 (Machine.stack {})).2.1 ⟨{}, ()⟩
    "f(x => f(x)); f"⟩

end ScriptHost
