import ScriptHost.Proofs.Callback.Alignment
import ScriptHost.Proofs.World.Nested

/-!
# What every history leaves

A host that has run sources, called functions and made realms, in any order and with any
callbacks, is in a sound world as long as fewer than `2 ^ 32` realms were made.  No engine has
been entered then: whatever enters one leaves it again, and callbacks have no part in that.

`Host.Acts` is one step of a history, `Host.Goes` any number of them.  Among the steps are the
stretches of a script between its host calls, so the worlds in the middle of a run are on the
way too.
-/

namespace ScriptHost

open Script (RefRule)

variable {φ γ σ : Type} {w w' : World φ σ} {host : Host φ γ σ}

/-! ## The live stack -/

/-- The same engines are entered. -/
def SameLive (w w' : World φ σ) : Prop := w'.live = w.live

theorem SameLive.frame : Frame (SameLive (φ := φ) (σ := σ)) where
  refl _ := rfl
  trans h h' := Eq.trans h' h
  setHeap _ _ _ := rfl
  register _ _ _ := rfl
  record _ _ := rfl
  host _ _ _ := rfl
  addRealm _ _ _ _ := rfl
  active _ h := h
  live _ h := congrArg List.tail h

/-- A callback has no part in which engines are entered: its guards are about the active stack
only. -/
theorem Body.perform_sameLive {s : Services φ γ σ} (hs : s.Keep SameLive)
    (i : Option (Invocation φ)) (b : Body φ γ σ) (r : Recorded φ) (w : World φ σ) :
    SameLive w (b.perform s i r w).1 :=
  b.perform_bound SameLive.frame (fun _ _ => rfl) hs i r w

theorem Host.settled_sameLive (host : Host φ γ σ) : host.Settled (fun _ => True) SameLive :=
  Host.settled fun hs i b _ r w => b.perform_sameLive hs i r w

/-- Any function may be held. -/
theorem World.le_held_any {K : Functions} {w : World φ σ} : K ≤ w.held .any :=
  fun _ _ _ => trivial

/-- Any object may be referred to. -/
theorem sound_any (n : Nat) (x : Script.Val) : x.Sound .any n := by
  cases x with
  | object o => trivial
  | _ => trivial

variable [Machine]

theorem dispatcher_sameLive (n : Nat) (context : RealmRef) (call : Script.HostCall)
    (w : World φ σ) : SameLive w (dispatcher host n context call w).1 := by
  rw [← dispatcherBy_usual]
  exact dispatcherBy_bound SameLive.frame host.settled_sameLive n context call w

theorem services_sameLive (n : Nat) (left : Script.Stack) :
    (services host (dispatcher host n) left).Keep SameLive := by
  rw [← servicesBy_usual]
  exact servicesBy_keep SameLive.frame (dispatcher_sameLive n) host.settled_sameLive left

/-- No engine is entered between two things that a host does. -/
theorem Host.Reaches.live_eq_nil (h : host.Reaches w) : w.live = [] := by
  have hs : (services host (dispatcher host Machine.nesting) (Machine.stack {})).Keep SameLive :=
    services_sameLive Machine.nesting (Machine.stack {})
  induction h with
  | start s => rfl
  | @run engine source w _ ih => exact (hs.run engine source w).trans ih
  | @call f arguments w _ ih => exact (hs.call f arguments w).trans ih
  | @createRealm config n w _ ih =>
      have hcreate : SameLive w (host.createRealm config n w).1 := by
        rw [Host.createRealm, ← createRealmBy_usual]
        exact createRealmBy_bound SameLive.frame (dispatcher_sameLive Machine.nesting)
          (Machine.stack {}) config n w
      exact hcreate.trans ih
  | addRealm backend s stack _ ih => exact ih
  | register r f _ ih => exact ih
  | @invoke r slot arguments w _ ih =>
      have hinvoke : SameLive w (host.invoke r slot arguments w).1 :=
        invoke_bound SameLive.frame (fun f i w => Body.perform_sameLive hs _ _ {} w) r slot
          arguments w
      exact hinvoke.trans ih
  | remember taken s _ ih => exact ih

/-! ## Soundness -/

variable [LawfulMachine]

/-- Whatever a host does in a sound world, a sound world is left. -/
theorem roaming_any (host : Host φ γ σ) (n : Nat) :
    Regime.roaming.Answers .any (.all : Knowledge φ γ σ) (dispatcher host n)
      (probedDispatcher id host n) :=
  Regime.dispatcher_answers host.honest_all (fun _ _ _ => rfl) (dispatcher_grows host)
    (fun n left f i w => Body.perform_grows (services_grow host (dispatcher_grows host n) left)
      _ (host.behave f i) {} w) n

/-- A source runs in a realm whether the realm is active or not. -/
theorem roaming_execute {R : RefRule} {know : Knowledge φ γ σ} {d d' : Dispatcher φ σ}
    (A : Regime.roaming.Answers R know d d') (left : Script.Stack) (r : RealmRef) (source : String)
    (hw : w.Sound R know) :
    Regime.roaming.Sane R know (fun w' x => Known know (w'.held R) x) w
      (execute d left r source w) (execute d' left r source w) := by
  unfold execute
  rw [← withContextBy_usual, ← withContextBy_usual]
  refine Regime.Sane.inContext rfl stackless_known known_error left (fun context stack w' => ?_) hw
    (fun stack hlive => ?_) fun stack _ hscript => ?_
  · exact (A.grown.runSource (c := ⟨d, context, r, stack⟩) source ⟨⟩).bound
  · exact A.runSource stack source ⟨trivial, hw.live r hlive, hw⟩
  · have hr := World.lt_size_of_isScript _ hscript
    exact A.runSource stack source ⟨trivial, hr, hw.withStacks _ (hw.live_cons hr)⟩

omit [LawfulMachine] in
theorem execute_grows {d : Dispatcher φ σ}
    (hd : ∀ context call (w : World φ σ), Grows w (d context call w).1) (left : Script.Stack)
    (r : RealmRef) (source : String) (w : World φ σ) :
    Grows w (execute d left r source w).1 := by
  have C : Comparison (fun _ : World φ σ => True) Grows d d := .self Grows.frame hd
  have hin : Settles Grows w (execute d left r source w) (execute d left r source w) := by
    refine Comparison.inContext Grows.frame r left (fun context _ => ?_) fun _ _ => ?_
    · exact C.runSource (c := ⟨d, context, r, left⟩) source ⟨⟩
    · exact C.runSource (c := ⟨d, r, r, (w.realm r).stack⟩) source ⟨⟩
  exact hin.bound

/-! ## One thing after another -/

/-- The heap in which a run stops, to ask the host or because it has ended. -/
def Script.Run.heap {α : Type} : Script.Run α → Script.Heap
  | .finished h _ => h
  | .host h _ _ => h

/-- What can happen next in a world: the host does something by itself, or code of a realm
runs until it stops.  In the middle of a run both alternate. -/
inductive Host.Acts (host : Host φ γ σ) : World φ σ → World φ σ → Prop
  | run (engine : Engine γ) (source : String) (w : World φ σ) :
      host.Acts w (host.run engine source w).1
  | call (f : FunctionRef) (arguments : List (Value φ)) (w : World φ σ) :
      host.Acts w (host.call f arguments w).1
  | createRealm (config : EngineConfig) (n : Namespace φ) (w : World φ σ) :
      host.Acts w (host.createRealm config n w).1
  | execute (r : RealmRef) (source : String) (w : World φ σ) :
      host.Acts w (host.execute r source w).1
  | addRealm (backend s : String) (stack : Script.Stack) (w : World φ σ) :
      host.Acts w (w.addRealm backend (.text s) stack).2
  | register (r : RealmRef) (f : φ) (w : World φ σ) : host.Acts w (w.register r f).2
  | invoke (r : RealmRef) (slot : UInt32) (arguments : List (Value φ)) (w : World φ σ) :
      host.Acts w (host.invoke r slot arguments w).1
  | enter (r : RealmRef) (w : World φ σ) : host.Acts w (w.enter r).2
  | leave (g : World.Guard) (w : World φ σ) : host.Acts w (w.leave g)
  | engines {live : List RealmRef} {w : World φ σ} : (∀ r ∈ live, r < w.realms.size) →
      host.Acts w { w with live := live }
  | record (e : Event) (w : World φ σ) : host.Acts w (w.record e)
  | remember (taken : Nat) (s : σ) (w : World φ σ) :
      host.Acts w { w with nextValue := w.nextValue + taken, host := s }
  | script {α : Type} {P : Script.Post α} {x : Script.Run α} {r : RealmRef} {w : World φ σ} :
      r < w.realms.size → x.Conducts .any P (w.heap r) → host.Acts w (w.setHeap r x.heap)

namespace Host.Acts

theorem grows (h : host.Acts w w') : Grows w w' := by
  have hgrown := Grows.comparison host Machine.nesting
  have hs := services_grow host (dispatcher_grows host Machine.nesting) (Machine.stack {})
  cases h with
  | run engine source _ => exact hs.run engine source w
  | call f arguments _ => exact hs.call f arguments w
  | createRealm config n _ => exact (hgrown.createRealm (Machine.stack {}) config n ⟨⟩).bound
  | execute r source _ => exact execute_grows (dispatcher_grows host Machine.nesting) _ r source w
  | addRealm backend s stack _ => exact .addRealm w backend _ stack
  | register r f _ => exact .register w r f
  | invoke r slot arguments _ =>
      exact invoke_grows host hs r slot arguments w
  | enter r _ => exact (later_withStacks w _ w.live).toGrows
  | leave g _ => exact (later_withStacks w _ w.live).toGrows
  | @engines live _ _ => exact (later_withStacks w w.active live).toGrows
  | record e _ => exact (later_record w e).toGrows
  | remember taken s _ => exact Grows.frame.host w taken s
  | @script _ _ x r _ _ _ => exact .setHeap w r x.heap

/-- What happens in a sound world leaves a later one that is sound, if it is not too large. -/
theorem later (h : host.Acts w w') (hw : w.Sound .any (.all : Knowledge φ γ σ))
    (hfew : w'.realms.size < 2 ^ 32) : w.Later w' ∧ w'.Sound .any (.all : Knowledge φ γ σ) := by
  have A := roaming_any host Machine.nesting
  have hs := A.serves host.honest_all (Machine.stack {})
  cases h with
  | run engine source _ =>
      have hsane := hs.run engine source World.le_held_any hw hfew
      exact ⟨hsane.later, hsane.sound⟩
  | call f arguments _ =>
      have hsane := hs.call World.le_held_any (fun _ _ => World.le_held_any) hw hfew
      exact ⟨hsane.later, hsane.sound⟩
  | createRealm config n _ =>
      have hsane := A.createRealm _ config n World.le_held_any hw hfew
      exact ⟨hsane.later, hsane.sound⟩
  | execute r source _ =>
      have hsane := roaming_execute A (Machine.stack {}) r source hw hfew
      exact ⟨hsane.later, hsane.sound⟩
  | addRealm backend s stack _ =>
      exact ⟨.addRealm w backend stack trivial, hw.addRealm backend stack trivial⟩
  | register r f _ => exact ⟨.register w r f, hw.register r World.le_held_any⟩
  | invoke r slot arguments _ =>
      have hsane := hs.invoke host.honest_all (fun _ _ _ => rfl) r slot
        (fun _ _ => World.le_held_any) hw hfew
      exact ⟨hsane.later, hsane.sound⟩
  | enter r _ => exact ⟨later_withStacks w _ w.live, hw.withStacks _ hw.live⟩
  | leave g _ => exact ⟨later_withStacks w _ w.live, hw.withStacks _ hw.live⟩
  | @engines live _ hlive => exact ⟨later_withStacks w w.active live, hw.withStacks _ hlive⟩
  | record e _ => exact ⟨later_record w e, hw.record e⟩
  | remember taken s _ =>
      exact ⟨later_host w taken s,
        hw.of_realms_eq rfl rfl List.suffix_rfl rfl World.le_held_any⟩
  | @script _ _ x r _ hr hx =>
      cases x with
      | finished h o =>
          obtain ⟨hran, hs, -⟩ := hx
          exact ⟨.setHeap hr hran.toLater, hw.setHeap hr hran hs⟩
      | host h call resume =>
          obtain ⟨hran, hs, -⟩ := hx
          exact ⟨.setHeap hr hran.toLater, hw.setHeap hr hran hs⟩

end Host.Acts

/-- One thing happens after another, any number of times. -/
def Host.Goes (host : Host φ γ σ) : World φ σ → World φ σ → Prop :=
  Relation.ReflTransGen host.Acts

omit [LawfulMachine] in
/-- A realm is entered, and code of it runs that leaves the heap as it is. -/
theorem Host.Goes.entered {r : RealmRef} (hs : (w.heap r).Sound .any) (hr : r < w.realms.size) :
    host.Goes w ((w.enter r).2.setHeap r (w.heap r)) := by
  have henter : host.Goes w (w.enter r).2 := .single (.enter r w)
  exact henter.tail (.script (P := .any) (x := .finished (w.heap r) (.returned ())) hr
    ⟨.refl _, hs, trivial⟩)

theorem Host.Goes.grows (h : host.Goes w w') : Grows w w' := by
  induction h with
  | refl => exact .refl w
  | tail _ hact ih => exact ih.trans hact.grows

/-- A history from a sound world leaves a later one that is sound, if that is not too large.
Worlds do not shrink, so the bound at the end is one at every point of it. -/
theorem Host.Goes.later (h : host.Goes w w') (hw : w.Sound .any (.all : Knowledge φ γ σ))
    (hfew : w'.realms.size < 2 ^ 32) : w.Later w' ∧ w'.Sound .any (.all : Knowledge φ γ σ) := by
  induction h with
  | refl => exact ⟨.refl w, hw⟩
  | tail _ hact ih =>
      have hbefore := Nat.lt_of_le_of_lt hact.grows.size_le hfew
      obtain ⟨hlater, hsound⟩ := ih hbefore
      obtain ⟨hlast, hlastSound⟩ := hact.later hsound hfew
      exact ⟨hlater.trans hlast, hlastSound⟩

omit [LawfulMachine] in
theorem Host.Reaches.goes (h : host.Reaches w) : ∃ s, host.Goes (.start s) w := by
  induction h with
  | start s => exact ⟨s, .refl⟩
  | run engine source _ ih => exact ih.imp fun _ hs => hs.tail (.run engine source _)
  | call f arguments _ ih => exact ih.imp fun _ hs => hs.tail (.call f arguments _)
  | createRealm config n _ ih => exact ih.imp fun _ hs => hs.tail (.createRealm config n _)
  | addRealm backend s stack _ ih => exact ih.imp fun _ hs => hs.tail (.addRealm backend s stack _)
  | register r f _ ih => exact ih.imp fun _ hs => hs.tail (.register r f _)
  | invoke r slot arguments _ ih => exact ih.imp fun _ hs => hs.tail (.invoke r slot arguments _)
  | remember taken s _ ih => exact ih.imp fun _ hs => hs.tail (.remember taken s _)

theorem Host.Reaches.sound_of_few (h : host.Reaches w) (hfew : w.realms.size < 2 ^ 32) :
    w.Sound .any (.all : Knowledge φ γ σ) := by
  obtain ⟨s, hgoes⟩ := h.goes
  exact (hgoes.later (.start World.le_held_any) hfew).2

end ScriptHost
