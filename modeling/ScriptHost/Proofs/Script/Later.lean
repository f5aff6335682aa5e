import ScriptHost.Proofs.Script.Object

/-!
# Heaps only grow

Objects are never removed, and what an object is, in the sense of its kind, is
settled when it is made.  So one heap can be later than another: it has the same
objects with the same kinds, and perhaps more of them.  Code that makes a host
function visible goes through the host; everything else that code makes is no host
function, which is the difference between a heap that is later and one that code
has reached by itself.
-/

namespace ScriptHost.Script

/-! ## Looking into a heap that changes -/

namespace Heap

variable (h : Heap)

/-- The number of objects. -/
def size : Nat := h.objects.size

/-- The key of a host function. -/
def native? (r : ObjectRef) : Option NativeKey :=
  match (h.object r).kind with
  | .function (.native k) => some k
  | _ => none

theorem object_of_size_le {r : ObjectRef} (hr : h.size ≤ r) : h.object r = default := by
  unfold object
  rw [Array.getD_eq_getD_getElem?, Array.getElem?_eq_none hr]
  rfl

theorem object_modify (r s : ObjectRef) (f : Object → Object) :
    (h.modify r f).object s = if r = s ∧ s < h.size then f (h.object s) else h.object s := by
  unfold object modify size
  simp only [Array.getD_eq_getD_getElem?, Array.getElem?_modify]
  by_cases hs : s < h.objects.size <;> by_cases hrs : r = s <;> simp [hs, hrs]

theorem object_allocate (o : Object) (r : ObjectRef) :
    (h.allocate o).2.object r = if r = h.size then o else h.object r := by
  unfold object allocate size
  simp only [Array.getD_eq_getD_getElem?, Array.getElem?_push]
  split
  · rfl
  · rfl

@[simp] theorem size_modify (r : ObjectRef) (f : Object → Object) :
    (h.modify r f).size = h.size := Array.size_modify

@[simp] theorem size_allocate (o : Object) : (h.allocate o).2.size = h.size + 1 :=
  Array.size_push o

@[simp] theorem ref_allocate (o : Object) : (h.allocate o).1 = h.size := rfl

/-- A new object is behind those that were there. -/
@[simp] theorem object_allocate_self (o : Object) : (h.allocate o).2.object h.size = o := by
  rw [h.object_allocate, if_pos rfl]

theorem object_allocate_of_lt (o : Object) {r : ObjectRef} (hr : r < h.size) :
    (h.allocate o).2.object r = h.object r := by
  rw [h.object_allocate, if_neg (Nat.ne_of_lt hr)]

theorem lt_size_allocate (o : Object) : h.size < (h.allocate o).2.size := by
  rw [h.size_allocate]
  exact Nat.lt_succ_self _

theorem native?_of_size_le {r : ObjectRef} (hr : h.size ≤ r) : h.native? r = none := by
  unfold native?
  rw [h.object_of_size_le hr]
  rfl

theorem native?_congr {h h' : Heap} (he : h'.objects = h.objects) (r : ObjectRef) :
    h'.native? r = h.native? r := by
  simp only [native?, object, he]

theorem native?_allocate_ne (o : Object) {r : ObjectRef} (hr : r ≠ h.size) :
    (h.allocate o).2.native? r = h.native? r := by
  unfold native?
  rw [h.object_allocate, if_neg hr]

/-- Setting an object to what it is changed to is changing it. -/
theorem setObject_eq_modify (r : ObjectRef) (f : Object → Object) :
    h.setObject r (f (h.object r)) = h.modify r f := by
  unfold setObject modify object
  congr 1
  refine Array.ext_getElem? fun i => ?_
  rw [Array.getElem?_setIfInBounds, Array.getElem?_modify, Array.getD_eq_getD_getElem?]
  by_cases hri : r = i
  · subst hri
    by_cases hr : r < h.objects.size <;> simp [hr]
  · simp [hri]

end Heap

/-! ## The order -/

/-- The same objects with the same kinds, and perhaps more. -/
structure Heap.Later (h h' : Heap) : Prop where
  size_le : h.size ≤ h'.size
  kind_eq : ∀ r, r < h.size → (h'.object r).kind = (h.object r).kind

namespace Heap.Later

variable {h h' h'' : Heap}

theorem refl (h : Heap) : h.Later h := ⟨Nat.le_refl _, fun _ _ => rfl⟩

theorem trans (h₁ : h.Later h') (h₂ : h'.Later h'') : h.Later h'' :=
  ⟨Nat.le_trans h₁.size_le h₂.size_le, fun r hr =>
    (h₂.kind_eq r (Nat.lt_of_lt_of_le hr h₁.size_le)).trans (h₁.kind_eq r hr)⟩

theorem of_objects_eq (he : h'.objects = h.objects) : h.Later h' := by
  have hobject (r : ObjectRef) : h'.object r = h.object r := by simp only [object, he]
  exact ⟨by simp only [size, he, Nat.le_refl], fun r _ => by rw [hobject]⟩

theorem modify (h : Heap) (r : ObjectRef) {f : Object → Object}
    (hf : ∀ o, (f o).kind = o.kind) : h.Later (h.modify r f) := by
  refine ⟨Nat.le_of_eq (h.size_modify r f).symm, fun s _ => ?_⟩
  rw [h.object_modify]
  split
  · exact hf _
  · rfl

theorem allocate (h : Heap) (o : Object) : h.Later (h.allocate o).2 := by
  refine ⟨Nat.le_of_lt (h.lt_size_allocate o), fun r hr => ?_⟩
  rw [h.object_allocate_of_lt o hr]

/-- A host function stays what it is. -/
theorem native? (hl : h.Later h') {r : ObjectRef} {k : NativeKey} (hk : h.native? r = some k) :
    h'.native? r = some k := by
  have hr : r < h.size := by
    by_contra hr
    rw [h.native?_of_size_le (Nat.le_of_not_lt hr)] at hk
    cases hk
  unfold Heap.native? at hk ⊢
  rwa [hl.kind_eq r hr]

/-- A function stays the function that it is. -/
theorem callable? (hl : h.Later h') {v : Val} {c : Callable} (hc : h.callable? v = some c) :
    h'.callable? v = some c := by
  cases v with
  | object r =>
      have hr : r < h.size := by
        by_contra hr
        simp only [Heap.callable?, h.object_of_size_le (Nat.le_of_not_lt hr)] at hc
        cases hc
      simp only [Heap.callable?, Object.callable?] at hc ⊢
      rwa [hl.kind_eq r hr]
  | _ => cases hc

end Heap.Later

/-! ## What code makes by itself -/

/-- A later heap none of whose new objects is a host function. -/
structure Heap.Ran (h h' : Heap) : Prop extends Heap.Later h h' where
  fresh : ∀ r, h.size ≤ r → h'.native? r = none

namespace Heap.Ran

variable {h h' h'' : Heap}

theorem refl (h : Heap) : h.Ran h := ⟨.refl h, fun _ hr => h.native?_of_size_le hr⟩

theorem trans (h₁ : h.Ran h') (h₂ : h'.Ran h'') : h.Ran h'' := by
  refine ⟨h₁.toLater.trans h₂.toLater, fun r hr => ?_⟩
  rcases Nat.lt_or_ge r h'.size with hlt | hge
  · have hnone := h₁.fresh r hr
    unfold native? at hnone ⊢
    rwa [h₂.kind_eq r hlt]
  · exact h₂.fresh r hge

/-- A later heap with as many objects. -/
theorem of_size_eq (hl : h.Later h') (hsize : h'.size = h.size) : h.Ran h' :=
  ⟨hl, fun _ hr => h'.native?_of_size_le (hsize ▸ hr)⟩

theorem of_objects_eq (he : h'.objects = h.objects) : h.Ran h' :=
  of_size_eq (.of_objects_eq he) (congrArg Array.size he)

theorem modify (h : Heap) (r : ObjectRef) {f : Object → Object}
    (hf : ∀ o, (f o).kind = o.kind) : h.Ran (h.modify r f) :=
  of_size_eq (.modify h r hf) (h.size_modify r f)

theorem allocate (h : Heap) (o : Object) (ho : ∀ k, o.kind ≠ .function (.native k)) :
    h.Ran (h.allocate o).2 := by
  refine ⟨.allocate h o, fun r hr => ?_⟩
  by_cases hlast : r = h.size
  · unfold native?
    rw [h.object_allocate, if_pos hlast]
    split
    · exact absurd ‹_› (ho _)
    · rfl
  · refine native?_of_size_le _ ?_
    rw [h.size_allocate]
    exact Nat.lt_of_le_of_ne hr (Ne.symm hlast)

end Heap.Ran

end ScriptHost.Script
