import ScriptHost.Proofs.Callback.Honest
import ScriptHost.Proofs.Script.Empty
import ScriptHost.Proofs.World.Grows

/-!
# Sound worlds

A world is sound if the heaps of its realms are, if every host function in them was
exported there, and if whatever callbacks and the host know is there to be known.  The
first part is about references inside of a realm, the last about functions that the host
holds, and the one in the middle ties the key of a host function to the table of its realm.

`Exported` is about the past: some time ago a callback was registered in a realm and the
function that leads to it was made there.  Worlds only grow, so the key of that function is
still that of the callback.
-/

namespace ScriptHost

open Script (Heap Post RefRule Val)

variable {φ γ σ : Type}

/-! ## Worlds that grow, and their heaps with them -/

/-- The state of a realm in which nothing has happened yet. -/
def RealmState.Fresh : RealmState → Prop
  | .script h => h.objects = Heap.standard.objects ∧ h.scopes = Heap.standard.scopes
  | .text _ => True

theorem RealmState.Fresh.heap {x : Realm φ} (hx : x.state.Fresh) :
    x.heap.objects = Heap.standard.objects ∧ x.heap.scopes = Heap.standard.scopes := by
  unfold Realm.heap
  cases hstate : x.state with
  | script h =>
      rw [hstate] at hx
      exact hx
  | text s => exact ⟨rfl, rfl⟩

/-- What is there stays there, in the heaps too. -/
structure World.Later (w w' : World φ σ) : Prop extends Grows w w' where
  heaps (r : RealmRef) : (w.heap r).Later (w'.heap r)

namespace World.Later

variable {w w' w'' : World φ σ}

theorem refl (w : World φ σ) : w.Later w := ⟨.refl w, fun _ => .refl _⟩

theorem trans (h : w.Later w') (h' : w'.Later w'') : w.Later w'' :=
  ⟨h.toGrows.trans h'.toGrows, fun r => (h.heaps r).trans (h'.heaps r)⟩

/-- Nothing but the stacks, the records and the host changes. -/
theorem of_realms_eq (hrealms : w'.realms = w.realms) (hnext : w'.nextRealm = w.nextRealm)
    (hlog : w.log <:+ w'.log) : w.Later w' := by
  refine ⟨.of_realms_eq hrealms hnext hlog, fun r => .of_objects_eq ?_⟩
  simp only [World.heap, World.realm, hrealms]

theorem setHeap {r : RealmRef} (hr : r < w.realms.size) {h : Heap} (hl : (w.heap r).Later h) :
    w.Later (w.setHeap r h) := by
  refine ⟨.setHeap w r h, fun s => ?_⟩
  by_cases hrs : r = s
  · subst hrs
    rw [w.heap_setHeap_self hr]
    exact hl
  · rw [w.heap_setHeap_ne hrs]
    exact .refl _

theorem register (w : World φ σ) (r : RealmRef) (f : φ) : w.Later (w.register r f).2 := by
  refine ⟨.register w r f, fun s => ?_⟩
  rw [w.heap_register]
  exact .refl _

/-- A realm that was not made yet counts as one with the heap of an empty realm. -/
theorem addRealm (w : World φ σ) (backend : String) {state : RealmState} (stack : Script.Stack)
    (hstate : state.Fresh) :
    w.Later (w.addRealm backend state stack).2 := by
  refine ⟨.addRealm w backend state stack, fun s => ?_⟩
  unfold World.heap
  rw [w.realm_addRealm]
  split
  · rename_i hs
    rw [w.realm_of_size_le (Nat.le_of_eq hs.symm)]
    exact .of_objects_eq (RealmState.Fresh.heap hstate).1
  · exact .refl _

end World.Later

/-! ## Functions that can be held -/

/-- The functions that the host may hold: those that stand for allowed references. -/
def World.held (R : RefRule) (w : World φ σ) : Functions := fun r o => R.Allows (w.heap r).size o

theorem World.Later.held_le {R : RefRule} {w w' : World φ σ} (h : w.Later w') :
    w.held R ≤ w'.held R :=
  fun r _ ho => R.mono (h.heaps r).size_le ho

/-! ## Exported callbacks -/

/-- A callback was exported into a realm as an object. -/
def Exported [Machine] (r : RealmRef) (o : ObjectRef) (f : φ) (w : World φ σ) : Prop :=
  ∃ (d : Dispatcher φ σ) (stack : Script.Stack) (name : String) (before : World φ σ),
    r < before.realms.size ∧ (Crossing.makeNative ⟨d, r, r, stack⟩ name f before).2 = .ok o ∧
      (Crossing.makeNative ⟨d, r, r, stack⟩ name f before).1.Later w

namespace World

variable (w : World φ σ)

theorem natives_register (r : RealmRef) (f : φ) (hr : r < w.realms.size) :
    ((w.register r f).2.realm r).natives = (w.realm r).natives.push f := by
  unfold register
  rw [w.realm_modifyRealm, if_pos ⟨rfl, hr⟩]
  rfl

theorem mem_natives_register {r s : RealmRef} {f g : φ}
    (hg : g ∈ ((w.register r f).2.realm s).natives) : g ∈ (w.realm s).natives ∨ g = f := by
  unfold register at hg
  rw [w.realm_modifyRealm] at hg
  split at hg
  · exact Array.mem_push.mp hg
  · exact .inl hg

end World

section MakeNative

variable [Machine] {d : Dispatcher φ σ} {r : RealmRef} {stack : Script.Stack} {w : World φ σ}
variable {o : ObjectRef}

/-- A callback gets the next slot of its realm. -/
theorem makeNative_eq (name : String) (f : φ) :
    Crossing.makeNative ⟨d, r, r, stack⟩ name f w =
      Crossing.allocate ⟨d, r, r, stack⟩ (Crossing.objectBytes + Crossing.stringBytes name)
        (Crossing.nativeObject name ⟨w.idOf r, UInt32.ofNat (w.realm r).natives.size⟩)
        (w.register r f).2 := rfl

/-- Making an object changes the heap of its realm, if it changes anything. -/
theorem allocate_world (d : Dispatcher φ σ) (r : RealmRef) (stack : Script.Stack) (bytes : Nat)
    (x : Script.Object) (w : World φ σ) :
    (Crossing.allocate ⟨d, r, r, stack⟩ bytes x w).1 = w ∨
      (Crossing.allocate ⟨d, r, r, stack⟩ bytes x w).1 =
        w.setHeap r ((w.heap r).allocate x).2 := by
  rw [Crossing.allocate_eq]
  split
  · exact .inr rfl
  · exact .inl rfl

theorem heap_allocate {bytes : Nat} {x : Script.Object} (hr : r < w.realms.size)
    (hmade : (Crossing.allocate ⟨d, r, r, stack⟩ bytes x w).2 = .ok o) :
    (Crossing.allocate ⟨d, r, r, stack⟩ bytes x w).1.heap r = ((w.heap r).allocate x).2 ∧
      o = (w.heap r).size := by
  obtain ⟨heq, href⟩ := Crossing.allocate_ok hmade
  rw [heq]
  exact ⟨w.heap_setHeap_self hr _, href⟩

/-- Registering a callback leaves the heap alone, and so its function is the next object. -/
theorem heap_makeNative {name : String} {f : φ} (hr : r < w.realms.size)
    (hmade : (Crossing.makeNative ⟨d, r, r, stack⟩ name f w).2 = .ok o) :
    (Crossing.makeNative ⟨d, r, r, stack⟩ name f w).1.heap r =
        ((w.heap r).allocate (Crossing.nativeObject name
          ⟨w.idOf r, UInt32.ofNat (w.realm r).natives.size⟩)).2 ∧
      o = (w.heap r).size := by
  rw [makeNative_eq] at hmade ⊢
  have hheap := heap_allocate ((w.size_register r f).symm ▸ hr) hmade
  rwa [w.heap_register] at hheap

/-- Whether the function could be made or not, the callback is registered. -/
theorem natives_makeNative (name : String) (f : φ) (hr : r < w.realms.size) :
    ((Crossing.makeNative ⟨d, r, r, stack⟩ name f w).1.realm r).natives =
      (w.realm r).natives.push f := by
  rw [← w.natives_register r f hr, makeNative_eq]
  rcases allocate_world d r stack _ _ (w.register r f).2 with h | h
  · rw [h]
  · rw [h]
    exact World.natives_setHeap _ _ _ _

theorem idOf_makeNative (name : String) (f : φ) (s : RealmRef) :
    (Crossing.makeNative ⟨d, r, r, stack⟩ name f w).1.idOf s = w.idOf s := by
  rw [← w.idOf_register r s f, makeNative_eq]
  rcases allocate_world d r stack _ _ (w.register r f).2 with h | h
  · rw [h]
  · rw [h]
    exact World.idOf_setHeap _ _ _ _

theorem allocate_later (bytes : Nat) (x : Script.Object) (hr : r < w.realms.size) :
    w.Later (Crossing.allocate ⟨d, r, r, stack⟩ bytes x w).1 := by
  rcases allocate_world d r stack bytes x w with h | h
  · rw [h]
    exact .refl w
  · rw [h]
    exact .setHeap hr (.allocate _ _)

theorem makeNative_later (name : String) (f : φ) (hr : r < w.realms.size) :
    w.Later (Crossing.makeNative ⟨d, r, r, stack⟩ name f w).1 :=
  (World.Later.register w r f).trans (allocate_later _ _ (by rwa [w.size_register]))

end MakeNative

namespace Exported

variable [Machine] {r : RealmRef} {o : ObjectRef} {f : φ} {w w' : World φ σ}

theorem later (he : Exported r o f w) (hl : w.Later w') : Exported r o f w' := by
  obtain ⟨d, stack, name, before, hr, ho, hlater⟩ := he
  exact ⟨d, stack, name, before, hr, ho, hlater.trans hl⟩

/-- The object has the key of a slot of its realm, and the callback is in that slot. -/
theorem native? (he : Exported r o f w) :
    r < w.realms.size ∧ ∃ n, (w.realm r).natives[n]? = some f ∧
      (w.heap r).native? o = some ⟨w.idOf r, UInt32.ofNat n⟩ := by
  obtain ⟨d, stack, name, before, hr, ho, hlater⟩ := he
  have hmade : before.Later (Crossing.makeNative ⟨d, r, r, stack⟩ name f before).1 :=
    makeNative_later name f hr
  refine ⟨Nat.lt_of_lt_of_le hr (hmade.trans hlater).size_le,
    (before.realm r).natives.size, ?_, (hlater.heaps r).native? ?_⟩
  · have hprefix := hlater.natives r
    rw [natives_makeNative name f hr, Array.toList_push] at hprefix
    rw [← Array.getElem?_toList, ← Array.length_toList]
    obtain ⟨rest, hrest⟩ := hprefix
    rw [← hrest, List.append_assoc, List.getElem?_append_right (Nat.le_refl _), Nat.sub_self]
    rfl
  · obtain ⟨hheap, rfl⟩ := heap_makeNative hr ho
    rw [(hmade.trans hlater).id_eq r hr, hheap, Heap.native?, Heap.object_allocate_self]
    rfl

end Exported

/-! ## Sound worlds -/

/-- The heaps are sound, their host functions were exported there, and everything that is
known is there. -/
structure World.Sound [Machine] (R : RefRule) (know : Knowledge φ γ σ) (w : World φ σ) : Prop where
  numbered : w.Numbered
  live (r : RealmRef) : r ∈ w.live → r < w.realms.size
  heaps (r : RealmRef) : (w.heap r).Sound R
  natives (r : RealmRef) (o : ObjectRef) (k : NativeKey) :
    (w.heap r).native? o = some k → ∃ f, Exported r o f w
  callbacks (r : RealmRef) (f : φ) : f ∈ (w.realm r).natives → know.callback f ≤ w.held R
  host : know.host w.host ≤ w.held R

namespace World.Sound

variable [Machine] {R : RefRule} {know : Knowledge φ γ σ} {w w' : World φ σ}

theorem start {s : σ} (hs : know.host s ≤ (World.start s : World φ σ).held R) :
    (World.start s : World φ σ).Sound R know where
  numbered := .start s
  live _ hr := absurd hr List.not_mem_nil
  heaps _ := Heap.standard_sound
  natives _ o k hk := by
    have hnone : some k = none := hk.symm.trans (Heap.standard_native? o)
    cases hnone
  callbacks _ _ hf := absurd hf (Array.not_mem_empty _)
  host := hs

/-- Nothing but the records and the stack of active realms changes, and the host keeps what
is known. -/
theorem of_realms_eq (hw : w.Sound R know) (hrealms : w'.realms = w.realms)
    (hnext : w'.nextRealm = w.nextRealm) (hlog : w.log <:+ w'.log) (hlive : w'.live = w.live)
    (hhost : know.host w'.host ≤ w.held R) : w'.Sound R know := by
  have hl : w.Later w' := .of_realms_eq hrealms hnext hlog
  have hrealm (r : RealmRef) : w'.realm r = w.realm r := by simp only [World.realm, hrealms]
  have hheap (r : RealmRef) : w'.heap r = w.heap r := by simp only [World.heap, hrealm]
  refine ⟨hl.numbered hw.numbered, fun r hr => ?_, fun r => ?_, fun r o k hk => ?_,
    fun r f hf => ?_, fun r o ho => hl.held_le r o (hhost r o ho)⟩
  · rw [hlive] at hr
    rw [hrealms]
    exact hw.live r hr
  · rw [hheap]
    exact hw.heaps r
  · rw [hheap] at hk
    obtain ⟨f, hf⟩ := hw.natives r o k hk
    exact ⟨f, hf.later hl⟩
  · rw [hrealm] at hf
    exact (hw.callbacks r f hf).trans hl.held_le

/-- A realm gets a later heap, in which the new host functions were exported. -/
theorem replaceHeap (hw : w.Sound R know) {r : RealmRef} (hr : r < w.realms.size) {h : Heap}
    (hlater : (w.heap r).Later h) (hs : h.Sound R)
    (hnatives : ∀ o k, h.native? o = some k →
      (w.heap r).native? o = some k ∨ ∃ f, Exported r o f (w.setHeap r h)) :
    (w.setHeap r h).Sound R know := by
  have hl : w.Later (w.setHeap r h) := .setHeap hr hlater
  have hold {s : RealmRef} {o : ObjectRef} {k : NativeKey}
      (hk : (w.heap s).native? o = some k) : ∃ f, Exported s o f (w.setHeap r h) := by
    obtain ⟨f, hf⟩ := hw.natives s o k hk
    exact ⟨f, hf.later hl⟩
  refine ⟨hl.numbered hw.numbered, fun s hs' => ?_, fun s => ?_, fun s o k hk => ?_,
    fun s f hf => ?_, hw.host.trans hl.held_le⟩
  · rw [w.size_setHeap]
    exact hw.live s hs'
  · by_cases hrs : r = s
    · subst hrs
      rwa [w.heap_setHeap_self hr]
    · rw [w.heap_setHeap_ne hrs]
      exact hw.heaps s
  · by_cases hrs : r = s
    · subst hrs
      rw [w.heap_setHeap_self hr] at hk
      exact (hnatives o k hk).elim hold id
    · rw [w.heap_setHeap_ne hrs] at hk
      exact hold hk
  · rw [w.natives_setHeap] at hf
    exact (hw.callbacks s f hf).trans hl.held_le

/-- Code of a realm has changed its heap. -/
theorem setHeap (hw : w.Sound R know) {r : RealmRef} (hr : r < w.realms.size) {h : Heap}
    (hran : (w.heap r).Ran h) (hs : h.Sound R) : (w.setHeap r h).Sound R know := by
  refine hw.replaceHeap hr hran.toLater hs fun o k hk => .inl ?_
  have ho : o < (w.heap r).size := by
    by_contra ho
    rw [hran.fresh o (Nat.le_of_not_lt ho)] at hk
    cases hk
  unfold Heap.native? at hk ⊢
  rwa [← hran.kind_eq o ho]

theorem addRealm (hw : w.Sound R know) (backend : String) {state : RealmState}
    (stack : Script.Stack) (hstate : state.Fresh) :
    (w.addRealm backend state stack).2.Sound R know := by
  have hl : w.Later (w.addRealm backend state stack).2 := .addRealm w backend stack hstate
  refine ⟨hl.numbered hw.numbered, fun s hs => Nat.lt_of_lt_of_le (hw.live s hs) hl.size_le,
    fun s => ?_, fun s o k hk => ?_, fun s f hf => ?_, hw.host.trans hl.held_le⟩
  · unfold World.heap
    rw [w.realm_addRealm]
    split
    · obtain ⟨hobjects, hscopes⟩ := RealmState.Fresh.heap (φ := φ)
        (x := ⟨w.nextRealm, backend, #[], state, stack⟩) hstate
      exact Heap.Sound.congr Heap.standard_sound hobjects hscopes
    · exact hw.heaps s
  · have hold : (w.heap s).native? o = some k := by
      unfold World.heap at hk ⊢
      rw [w.realm_addRealm] at hk
      split at hk
      · have hobjects := (RealmState.Fresh.heap (φ := φ)
          (x := ⟨w.nextRealm, backend, #[], state, stack⟩) hstate).1
        rw [(Heap.native?_congr hobjects o).trans (Heap.standard_native? o)] at hk
        cases hk
      · exact hk
    obtain ⟨f, hf⟩ := hw.natives s o k hold
    exact ⟨f, hf.later hl⟩
  · rw [w.realm_addRealm] at hf
    split at hf
    · exact absurd hf (Array.not_mem_empty _)
    · exact (hw.callbacks s f hf).trans hl.held_le

/-- A callback is registered that knows what can be held. -/
theorem register (hw : w.Sound R know) (r : RealmRef) {f : φ}
    (hf : know.callback f ≤ w.held R) : (w.register r f).2.Sound R know := by
  have hl : w.Later (w.register r f).2 := .register w r f
  refine ⟨hl.numbered hw.numbered, fun s hs => ?_, fun s => ?_, fun s o k hk => ?_,
    fun s g hg => ?_, hw.host.trans hl.held_le⟩
  · rw [w.size_register]
    exact hw.live s hs
  · rw [w.heap_register]
    exact hw.heaps s
  · rw [w.heap_register] at hk
    obtain ⟨g, hg⟩ := hw.natives s o k hk
    exact ⟨g, hg.later hl⟩
  · refine le_trans ?_ hl.held_le
    rcases w.mem_natives_register hg with hg | rfl
    · exact hw.callbacks s g hg
    · exact hf

omit [Machine] in
theorem nativeObject_sound {h : Heap} (hs : h.Sound R) (name : String) (k : NativeKey) {n : Nat}
    (hn : h.size ≤ n) : (Crossing.nativeObject name k).Sound R n := by
  refine Script.Object.sound_make trivial (fun p hp => ?_) (Script.functionProperties_sound _ _)
  cases hp
  exact R.mono hn (hs.place (by decide))

/-- The function that leads to a new callback is the one host function that is new. -/
theorem makeNative (hw : w.Sound R know) {d : Dispatcher φ σ} {r : RealmRef} {stack : Script.Stack}
    (hr : r < w.realms.size) (name : String) {f : φ} (hf : know.callback f ≤ w.held R) :
    (Crossing.makeNative ⟨d, r, r, stack⟩ name f w).1.Sound R know := by
  have hregistered := hw.register r hf
  have hr' : r < (w.register r f).2.realms.size := by rwa [w.size_register]
  cases hmade : (Crossing.makeNative ⟨d, r, r, stack⟩ name f w).2 with
  | error e =>
      -- The callback has a slot, but no function.
      rw [makeNative_eq, Crossing.allocate_eq] at hmade ⊢
      split at hmade
      · cases hmade
      · rename_i hrefused
        rwa [if_neg hrefused]
  | ok o =>
      rw [makeNative_eq] at hmade
      obtain ⟨heq, -⟩ := Crossing.allocate_ok hmade
      rw [makeNative_eq, heq]
      refine hregistered.replaceHeap hr' (.allocate _ _) ?_ fun o' k hk => ?_
      · exact (hregistered.heaps r).allocate
          (nativeObject_sound (hregistered.heaps r) _ _ (Nat.le_succ _))
      · by_cases ho : o' = ((w.register r f).2.heap r).size
        · subst ho
          refine .inr ⟨f, d, stack, name, w, hr, ?_, ?_⟩
          · rw [makeNative_eq, heq]
          · rw [makeNative_eq, heq]
            exact .refl _
        · exact .inl ((Heap.native?_allocate_ne _ _ ho).symm.trans hk)

end World.Sound

end ScriptHost
