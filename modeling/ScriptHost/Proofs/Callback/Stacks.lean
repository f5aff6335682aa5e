import ScriptHost.Proofs.Callback.Probe
import ScriptHost.Proofs.Script.Interpreter

/-!
# Runs and calls leave both stacks as they were

A run or a call pushes its realm on the active stack and an engine that it enters on
the live one, and callbacks take guards of their own in between.  Whatever happens on
the way, both stacks come out as they went in: every exit of the program, the early
ones included, goes through the same pop.

A callback has to play along.  `Body.Balanced` says that it gives back the guards that
it took, and no other, the last one first.  `Unwinds` is the invariant that carries
this through the steps: giving back the guards that are held would lead to the stack
that the callback started on.
-/

namespace ScriptHost

variable {φ γ σ : Type}

/-! ## Both stacks are the same -/

/-- The same realms are active and live, in the same order. -/
structure SameStacks (w w' : World φ σ) : Prop where
  active : w'.active = w.active
  live : w'.live = w.live

namespace SameStacks

variable {w w' w'' : World φ σ}

theorem refl (w : World φ σ) : SameStacks w w := ⟨rfl, rfl⟩

theorem trans (h : SameStacks w w') (h' : SameStacks w' w'') : SameStacks w w'' :=
  ⟨h'.active.trans h.active, h'.live.trans h.live⟩

theorem depth_eq (h : SameStacks w w') : w'.depth = w.depth := congrArg List.length h.active

theorem current?_eq (h : SameStacks w w') : w'.current? = w.current? :=
  congrArg List.head? h.active

/-- What lies under an entry of the stack is what the guard of that entry leads back to. -/
theorem leave_enter (w : World φ σ) (r : RealmRef) (h : SameStacks (w.enter r).2 w') :
    (w'.leave (w.enter r).1).active = w.active := by
  have hactive : w'.active = r :: w.active := h.active
  simp only [World.leave, World.enter, World.bottom, hactive, List.length_cons]
  rw [Nat.add_sub_cancel_left]
  rfl

theorem frame : Frame (SameStacks (φ := φ) (σ := σ)) where
  refl := refl
  trans := trans
  setHeap _ _ _ := ⟨rfl, rfl⟩
  register _ _ _ := ⟨rfl, rfl⟩
  record _ _ := ⟨rfl, rfl⟩
  host _ _ _ := ⟨rfl, rfl⟩
  addRealm _ _ _ _ := ⟨rfl, rfl⟩
  active r h := ⟨leave_enter _ r h, h.live⟩
  live r h := ⟨h.active, by rw [h.live]; rfl⟩

end SameStacks

/-- Both stacks are the same, and so is all that can be asked about them. -/
structure Restored (w w' : World φ σ) : Prop extends SameStacks w w' where
  current : w'.current? = w.current?
  depth : w'.depth = w.depth
  /-- A stack that was empty is empty again. -/
  empty : w.active = [] → w'.active = []

theorem SameStacks.restored {w w' : World φ σ} (h : SameStacks w w') : Restored w w' :=
  ⟨h, h.current?_eq, h.depth_eq, fun hempty => h.active.trans hempty⟩

/-! ## Callbacks that give back their guards -/

/-- The callback gives back the guards that are held, the last one first, and every guard
that it takes itself, before it ends. -/
def Body.Balanced : List World.Guard → Body φ γ σ → Prop
  | held, .done => held = []
  | held, .answer _ next => next.Balanced held
  | held, .fail _ next => next.Balanced held
  | held, .call _ _ next => ∀ x, (next x).Balanced held
  | held, .run _ _ next => ∀ x, (next x).Balanced held
  | held, .look next => ∀ x, (next x).Balanced held
  | held, .recall next => ∀ x, (next x).Balanced held
  | held, .remember _ next => next.Balanced held
  | held, .make _ next => ∀ x, (next x).Balanced held
  | held, .enter _ next => ∀ g, (next g).Balanced (g :: held)
  | held, .leave g next => ∃ rest, held = g :: rest ∧ next.Balanced rest

/-- Whatever the host does, it gives back the guards that it takes. -/
def Host.Balanced (host : Host φ γ σ) : Prop := ∀ {i b}, host.Takes i b → b.Balanced []

/-- Giving back the guards that are held leads from one stack to another. -/
def Unwinds : List World.Guard → List RealmRef → List RealmRef → Prop
  | [], stack, base => stack = base
  | g :: held, stack, base => Unwinds held (World.bottom g.depth stack) base

theorem unwinds_enter {held : List World.Guard} {w : World φ σ} {base : List RealmRef}
    (r : RealmRef) (h : Unwinds held w.active base) :
    Unwinds ((w.enter r).1 :: held) (w.enter r).2.active base := by
  have hbottom : World.bottom (w.enter r).1.depth (w.enter r).2.active = w.active :=
    SameStacks.leave_enter w r (.refl _)
  unfold Unwinds
  rwa [hbottom]

/-- Calls and runs of a callback leave the stacks as they were. -/
abbrev Services.Restores (s : Services φ γ σ) : Prop := s.Keep SameStacks

/-- A callback that gives back its guards leaves the stack that the guards held at its start
unwind to; they unwind to the same stack after each of its steps. -/
theorem Body.Balanced.perform {s : Services φ γ σ} (hs : s.Restores) (i : Option (Invocation φ))
    {b : Body φ γ σ} {held : List World.Guard} (hb : b.Balanced held) (r : Recorded φ)
    {w : World φ σ} {base live : List RealmRef} (hactive : Unwinds held w.active base)
    (hlive : w.live = live) :
    (b.perform s i r w).1.active = base ∧ (b.perform s i r w).1.live = live := by
  induction b generalizing held r w with
  | done =>
      rw [Body.Balanced] at hb
      subst hb
      exact ⟨hactive, hlive⟩
  | answer v next ih => exact ih hb _ hactive hlive
  | fail message next ih => exact ih hb _ hactive hlive
  | call f vs next ih =>
      have hcall := hs.call f vs w
      exact ih _ (hb _) r (hcall.active ▸ hactive) (hcall.live.trans hlive)
  | run engine source next ih =>
      have hrun := hs.run engine source w
      exact ih _ (hb _) r (hrun.active ▸ hactive) (hrun.live.trans hlive)
  | look next ih => exact ih _ (hb _) r hactive hlive
  | «recall» next ih => exact ih _ (hb _) r hactive hlive
  | remember f next ih => exact ih hb r hactive hlive
  | make f next ih => exact ih _ (hb _) r hactive hlive
  | enter realm' next ih => exact ih _ (hb _) r (unwinds_enter realm' hactive) hlive
  | leave g next ih =>
      obtain ⟨rest, rfl, hrest⟩ := hb
      exact ih hrest r hactive hlive

theorem Host.Balanced.settled {host : Host φ γ σ} (hb : host.Balanced) :
    host.Settled (fun _ => True) SameStacks := by
  refine Host.settled fun hs i b hbody r w => ?_
  have hperform : _ = w.active ∧ _ = w.live := (hb hbody).perform hs i r rfl rfl
  exact ⟨hperform.1, hperform.2⟩

/-! ## Nested runs and calls -/

/-- A dispatcher that leaves the stacks as they were, compared with itself. -/
theorem SameStacks.comparison {d : Dispatcher φ σ}
    (h : ∀ context call (w : World φ σ), SameStacks w (d context call w).1) :
    Comparison (fun _ => True) SameStacks d d :=
  .self SameStacks.frame h

section

variable [Machine] [LawfulMachine]

theorem services_restore {host : Host φ γ σ} (hb : host.Balanced) {d : Dispatcher φ σ}
    (h : ∀ context call (w : World φ σ), SameStacks w (d context call w).1) (left : Script.Stack) :
    (services host d left).Restores :=
  ((SameStacks.comparison h).services .trivial hb.settled left).keep

/-- Host calls leave the stacks as they were, at every nesting: each is answered by a callback
whose own runs and calls nest less deep. -/
theorem dispatcher_sameStacks {host : Host φ γ σ} (hb : host.Balanced) (n : Nat)
    (context : RealmRef) (call : Script.HostCall) (w : World φ σ) :
    SameStacks w (dispatcher host n context call w).1 := by
  induction n generalizing context call w with
  | zero => exact .refl w
  | succ n ih =>
      have hanswer : Settles SameStacks w (answer host (dispatcher host n) context call w)
          (answerProbed id host (dispatcher host n) context call w) := by
        refine (SameStacks.comparison ih).answer (fun left f i w _ => ?_) context call ⟨⟩
        have hperform : _ = w.active ∧ _ = w.live :=
          (hb (.callback f i)).perform (services_restore hb ih left) (some i) {} rfl rfl
        exact ⟨rfl, hperform.1, hperform.2⟩
      exact hanswer.bound

/-- Running a source and calling a function restore both stacks, at any depth of nesting
and however they end. -/
theorem run_and_call_restore {host : Host φ γ σ} (hb : host.Balanced) (n : Nat)
    (left : Script.Stack) (w : World φ σ) :
    (∀ engine source,
      Restored w (runEngine host (dispatcher host n) left engine source w).1) ∧
    ∀ f arguments, Restored w (callFunction host (dispatcher host n) left f arguments w).1 := by
  have hs := services_restore hb (dispatcher_sameStacks hb n) left
  refine ⟨fun engine source => ?_, fun f arguments => ?_⟩
  · exact (hs.run engine source w).restored
  · exact (hs.call f arguments w).restored

end

/-- A host whose one callback takes a guard, runs a source that throws, takes a second
guard, and gives both back.  One of its generators runs a source of its own. -/
def guardingHost : Host Unit Bool Unit where
  behave _ i :=
    .enter i.realm fun g => .run ⟨{}, false⟩ "f(); throw 1" fun _ =>
      .enter i.realm fun g' => .leave g' (.leave g .done)
  prepare busy := if busy then .run ⟨{}, false⟩ "throw 2" fun _ => .done else .done
  generate _ _ _ := ⟨.entry "f" (.callback ()) .empty, 0, ()⟩

theorem run_and_call_restore_guardingHost :
    guardingHost.Balanced ∧
      (guardingHost.run ⟨{}, true⟩ "f(); throw 1" (.start ())).1.active = [] ∧
      (guardingHost.run ⟨{}, true⟩ "f(); throw 1" (.start ())).1.live = [] := by
  have hb : guardingHost.Balanced := by
    intro i b hbody
    cases hbody with
    | callback f i => exact fun _ _ _ => ⟨_, rfl, _, rfl, rfl⟩
    | generator busy =>
        cases busy with
        | true => exact fun _ => rfl
        | false => rfl
    | function backend arguments => rfl
  have hrun := (run_and_call_restore hb Machine.nesting (Machine.stack {}) (.start ())).1
    ⟨{}, true⟩ "f(); throw 1"
  unfold Host.run
  exact ⟨hb, hrun.active, hrun.live⟩

end ScriptHost
