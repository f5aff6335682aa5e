import ScriptHost.Engine.Dispatch
import ScriptHost.Proofs.Script.Lawful
import ScriptHost.Proofs.World.Frame
import ScriptHost.Proofs.World.Realms

/-!
# Exporting into a fresh realm

A realm is made in one piece: nothing that is exported into it runs code of a script
or of the host on the way.  So it does not matter how host calls would be answered,
and a realm comes out the same whatever goes on around its creation.
-/

namespace ScriptHost

variable {φ γ σ α : Type}

/-- The context is there, and no script has touched its heap. -/
structure FreshContext (context : RealmRef) (w : World φ σ) : Prop where
  exists_context : context < w.realms.size
  pristine : (w.heap context).Pristine

/-- An object of a fresh context that is no array. -/
structure FreshTarget (context : RealmRef) (target : ObjectRef) (w : World φ σ) : Prop
    extends FreshContext context w where
  exists_target : target < (w.heap context).size
  noArray : ((w.heap context).object target).isArray = false

/-- What an export into a pristine heap leaves: a later pristine heap, and no realm more or
less. -/
structure StaysFresh (context : RealmRef) (w w' : World φ σ) : Prop where
  size_eq : w'.realms.size = w.realms.size
  later : (w.heap context).Later (w'.heap context)
  pristine : (w'.heap context).Pristine

/-- Two results are the same and keep the heap of a context pristine. -/
structure SameFresh (context : RealmRef) (w : World φ σ) (first second : World φ σ × α) :
    Prop where
  same : second = first
  fresh : StaysFresh context w first.1

namespace StaysFresh

variable {context : RealmRef} {w w' w'' : World φ σ}

theorem trans (h : StaysFresh context w w') (h' : StaysFresh context w' w'') :
    StaysFresh context w w'' :=
  ⟨h'.size_eq.trans h.size_eq, h.later.trans h'.later, h'.pristine⟩

theorem setHeap (hr : context < w.realms.size) {h : Script.Heap}
    (hl : (w.heap context).Later h) (hp : h.Pristine) :
    StaysFresh context w (w.setHeap context h) := by
  have hheap := w.heap_setHeap_self hr h
  exact ⟨w.size_setHeap context h, by rw [hheap]; exact hl, by rw [hheap]; exact hp⟩

end StaysFresh

variable {context : RealmRef} {target : ObjectRef} {w w' : World φ σ}

theorem FreshContext.stays (hc : FreshContext context w) (hs : StaysFresh context w w') :
    FreshContext context w' :=
  ⟨by rw [hs.size_eq]; exact hc.exists_context, hs.pristine⟩

theorem FreshTarget.stays (ht : FreshTarget context target w) (hs : StaysFresh context w w') :
    FreshTarget context target w' := by
  refine ⟨ht.toFreshContext.stays hs, Nat.lt_of_lt_of_le ht.exists_target hs.later.size_le, ?_⟩
  have hkind := hs.later.kind_eq target ht.exists_target
  have hno := ht.noArray
  unfold Script.Object.isArray at hno ⊢
  rwa [hkind]

variable {c : Crossing φ σ} (d : Dispatcher φ σ)

/-- Code that finishes by itself is run without the dispatcher. -/
theorem run_of_quietAt {x : Script.Action α} (hr : c.context < w.realms.size)
    (hx : x.QuietAt (w.heap c.context)) :
    SameFresh c.context w (c.run x w) ((c.through d).run x w) := by
  obtain ⟨h', o, hrun, hl, hp⟩ := hx
  have hdrive (d : Dispatcher φ σ) :
      drive d c.context (x (w.heap c.context)) w = (w.setHeap c.context h', o) := by
    rw [hrun]
    rfl
  refine ⟨(hdrive d).trans (hdrive c.dispatch).symm, ?_⟩
  rw [Crossing.run, hdrive c.dispatch]
  exact .setHeap hr hl hp

theorem restore_fresh (hc : FreshContext c.context w) (f : FunctionRef) :
    SameFresh c.context w (c.restore f w) ((c.through d).restore f w) := by
  have hrecord (e : Event) : StaysFresh c.context w (w.record e) := ⟨rfl, .refl _, hc.pristine⟩
  refine ⟨rfl, ?_⟩
  cases f with
  | foreign backend => exact hrecord _
  | captured origin object =>
      simp only [Crossing.restore]
      split
      · exact ⟨rfl, .refl _, hc.pristine⟩
      · exact hrecord _

section Machines

variable [Machine]

/-- A new object whose properties are plain values. -/
theorem allocate_fresh (hc : FreshContext c.context w) (bytes : Nat) (o : Script.Object)
    (ho : ∀ p, o.Holds p → p.slot.tame (w.heap c.context) = true) :
    SameFresh c.context w (c.allocate bytes o w) ((c.through d).allocate bytes o w) := by
  refine ⟨rfl, ?_⟩
  rw [c.allocate_eq]
  split
  · exact .setHeap hc.exists_context (.allocate _ o) (hc.pristine.allocate o ho)
  · exact ⟨rfl, .refl _, hc.pristine⟩

theorem allocatePlain_fresh (hc : FreshContext c.context w) :
    SameFresh c.context w (c.allocatePlain w) ((c.through d).allocatePlain w) ∧
      ∀ r, (c.allocatePlain w).2 = .ok r → FreshTarget c.context r (c.allocatePlain w).1 := by
  have hsame := allocate_fresh d hc Crossing.objectBytes
    (.ofKind .plain (some Script.Place.objectPrototype))
    fun p hp => absurd (Script.Object.holds_of_make hp) fun ⟨_, hk⟩ => List.not_mem_nil hk
  refine ⟨hsame, fun r hr => ⟨hc.stays hsame.fresh, ?_, ?_⟩⟩
  all_goals obtain ⟨hmade, rfl⟩ := Crossing.allocate_ok hr
  all_goals rw [Crossing.allocatePlain, hmade, w.heap_setHeap_self hc.exists_context]
  · exact (w.heap c.context).lt_size_allocate _
  · rw [Script.Heap.object_allocate_self]
    rfl

theorem makeNative_fresh (hc : FreshContext c.context w) (name : String) (f : φ) :
    SameFresh c.context w (c.makeNative name f w) ((c.through d).makeNative name f w) := by
  have hregister : StaysFresh c.context w (w.register c.realm f).2 := by
    refine ⟨w.size_register c.realm f, ?_, ?_⟩
    · rw [w.heap_register]
      exact .refl _
    · rw [w.heap_register]
      exact hc.pristine
  obtain ⟨hsame, hfresh⟩ := allocate_fresh d (hc.stays hregister)
    (Crossing.objectBytes + Crossing.stringBytes name)
    (Crossing.nativeObject name (w.register c.realm f).1) fun p hp => by
      obtain ⟨k, hk⟩ := Script.Object.holds_of_make hp
      simp only [Script.functionProperties, List.mem_cons, Prod.mk.injEq, List.not_mem_nil,
        or_false] at hk
      rcases hk with ⟨-, rfl⟩ | ⟨-, rfl⟩
      · rfl
      · rfl
  exact ⟨hsame, hregister.trans hfresh⟩

theorem assign_fresh [LawfulMachine] (ht : FreshTarget c.context target w) (name : String)
    (v : Script.Val) :
    SameFresh c.context w (c.assign target name v w) ((c.through d).assign target name v w) := by
  obtain ⟨hsame, hfresh⟩ := run_of_quietAt d ht.exists_context
    (Script.quietAt_setProperty ht.pristine (LawfulMachine.sets c.stack) ht.noArray
      (Script.key name) v)
  simp only [Crossing.assign, Crossing.evaluator, Crossing.through] at hsame ⊢
  rw [hsame]
  generalize c.run _ w = a at hfresh ⊢
  obtain ⟨w', o⟩ := a
  cases o <;> exact ⟨rfl, hfresh⟩

private theorem extract_object_fresh (id : ValueId) (exports : Namespace φ)
    (hinstall : ∀ target {w : World φ σ}, FreshTarget c.context target w →
      SameFresh c.context w (exports.install c target w) (exports.install (c.through d) target w))
    (hc : FreshContext c.context w) :
    SameFresh c.context w ((Value.object id exports).extract c w)
      ((Value.object id exports).extract (c.through d) w) := by
  obtain ⟨⟨hsame, hfresh⟩, ht⟩ := allocatePlain_fresh d hc
  simp only [Value.extract, hsame]
  generalize c.allocatePlain w = a at hfresh ht ⊢
  obtain ⟨w', e | r⟩ := a
  · exact ⟨rfl, hfresh⟩
  · obtain ⟨hsame', hfresh'⟩ := hinstall r (ht r rfl)
    simp only [hsame']
    generalize exports.install c r w' = b at hfresh' ⊢
    obtain ⟨w'', e | u⟩ := b
    · exact ⟨rfl, hfresh.trans hfresh'⟩
    · exact ⟨rfl, hfresh.trans hfresh'⟩

mutual
theorem extract_fresh [LawfulMachine] (v : Value φ) {w : World φ σ}
    (hc : FreshContext c.context w) :
    SameFresh c.context w (v.extract c w) (v.extract (c.through d) w) := by
  have hstay : StaysFresh c.context w w := ⟨rfl, .refl _, hc.pristine⟩
  cases v with
  | null => exact ⟨rfl, hstay⟩
  | undefined => exact ⟨rfl, hstay⟩
  | number id x => exact ⟨rfl, hstay⟩
  | string id s =>
      refine ⟨rfl, ?_⟩
      simp only [Value.extract]
      split <;> exact hstay
  | function id f => exact restore_fresh d hc f
  | object id exports =>
      exact extract_object_fresh d id exports
        (fun target _ ht => install_fresh exports target ht) hc

/-- A namespace is exported into a pristine heap whatever the dispatcher does. -/
theorem install_fresh [LawfulMachine] (exports : Namespace φ) (target : ObjectRef) {w : World φ σ}
    (ht : FreshTarget c.context target w) :
    SameFresh c.context w (exports.install c target w)
      (exports.install (c.through d) target w) := by
  cases exports with
  | empty => exact ⟨rfl, rfl, .refl _, ht.pristine⟩
  | entry name item rest =>
      obtain ⟨hsame, hfresh⟩ := realise_fresh item name ht.toFreshContext
      simp only [Namespace.install, hsame]
      generalize item.realise c name w = a at hfresh ⊢
      obtain ⟨w', e | v⟩ := a
      · exact ⟨rfl, hfresh⟩
      · -- the target is still fresh after each export: no setter of a pristine heap calls the host
        have ht' := ht.stays hfresh
        obtain ⟨hsame', hfresh'⟩ := assign_fresh d ht' name v
        simp only [hsame']
        generalize c.assign target name v w' = b at hfresh' ⊢
        obtain ⟨w'', e | u⟩ := b
        · exact ⟨rfl, hfresh.trans hfresh'⟩
        · obtain ⟨hrest, hfresh''⟩ := install_fresh rest target (ht'.stays hfresh')
          exact ⟨hrest, (hfresh.trans hfresh').trans hfresh''⟩

theorem realise_fresh [LawfulMachine] (item : Export φ) (name : String) {w : World φ σ}
    (hc : FreshContext c.context w) :
    SameFresh c.context w (item.realise c name w) (item.realise (c.through d) name w) := by
  cases item with
  | value v => exact extract_fresh v hc
  | callback f =>
      obtain ⟨hsame, hfresh⟩ := makeNative_fresh d hc name f
      simp only [Export.realise, hsame]
      generalize c.makeNative name f w = a at hfresh ⊢
      obtain ⟨w', e | r⟩ := a
      · exact ⟨rfl, hfresh⟩
      · exact ⟨rfl, hfresh⟩
  | nested exports =>
      exact extract_object_fresh d 0 exports (fun target _ ht => install_fresh exports target ht) hc
end

end Machines

end ScriptHost
