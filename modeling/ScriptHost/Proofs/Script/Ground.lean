import ScriptHost.Proofs.Script.Calm

/-!
# Heaps that exports can be assigned in

Whether an assignment runs code of a script depends on all that the target has and inherits,
and every assignment changes that.  A `Ground` is a kind of heaps, with the names that their
objects take, that assignments and new objects lead from one to another and in which what is
assigned under such a name finds nothing but what is calm.

There are two of them.

* `Ground.untouched`: no property of any object is a setter of a script.  Then every name can
  be assigned, `__proto__` too, and what comes of it may be inherited later.
* `Ground.rooted`: the targets inherit from the prototype of plain objects and nothing else,
  and these have no setter of a script.  Then every name but `__proto__` can be assigned,
  whatever scripts have done to other objects.  On `sure` ground nothing of it is read-only,
  and an assignment for which there is room does not fail.
-/

namespace ScriptHost.Script

/-- A kind of heaps in which names are assigned to objects. -/
structure Ground where
  Good : Heap → Prop
  /-- The names that an object takes. -/
  Takes : Heap → ObjectRef → String → Prop
  /-- The names that a new plain object takes. -/
  Free : String → Prop
  /-- Whether the names that an object takes can always be assigned. -/
  sure : Prop
  made {h : Heap} {r : ObjectRef} {name : String} : Takes h r name → r < h.size
  noArray {h : Heap} {r : ObjectRef} {name : String} :
    Takes h r name → (h.object r).isArray = false
  calm {h : Heap} {r : ObjectRef} {name : String} :
    Good h → Takes h r name → h.CalmAt r (key name)
  writable {h : Heap} {r : ObjectRef} {name : String} : sure → Good h → Takes h r name →
    (h.object r).extensible = true ∧
      ∀ owner p, h.findProperty? r (key name) = some (owner, p) → ∃ x, p.slot = .data x true
  allocate {h : Heap} {o : Object} : Good h → (∀ p, o.Holds p → ∃ x w, p.slot = .data x w) →
    Good (h.allocate o).2 ∧ ∀ s name, Takes h s name → Takes (h.allocate o).2 s name
  fresh {h : Heap} {name : String} : Good h → Free name →
    Takes (h.allocate (.ofKind .plain (some Place.objectPrototype))).2 h.size name
  assign {h h' : Heap} {r : ObjectRef} {name : String} {v : Val} {o : Outcome Unit} :
    Good h → Takes h r name → h.Assigns r (key name) v h' o →
      Good h' ∧ ∀ s name, Takes h s name → Takes h' s name

variable {h h' : Heap} {r s : ObjectRef} {k : Key}

/-! ## Heaps that no script has touched -/

/-- Nothing that an object has is a setter of a script. -/
def Heap.Calm (h : Heap) : Prop := ∀ r k p, (h.object r).own? k = some p → p.slot.Calm h k

namespace Heap.Calm

theorem calmAt (hc : h.Calm) (r : ObjectRef) (k : Key) : h.CalmAt r k :=
  fun owner p hp => hc owner k p (own?_owner hp)

theorem allocate (hc : h.Calm) {o : Object} (ho : ∀ p, o.Holds p → ∃ x w, p.slot = .data x w) :
    (h.allocate o).2.Calm := by
  intro r k p hp
  rw [h.object_allocate] at hp
  split at hp
  · obtain ⟨x, w, hslot⟩ := ho p (Object.holds_of_own? hp)
    exact Slot.calm_of_data hslot
  · exact (hc r k p hp).later (.allocate h o)

theorem assigns (hc : h.Calm) {v : Val} {o : Outcome Unit} (ha : h.Assigns r k v h' o) :
    h'.Calm := by
  intro s k' p hp
  rcases ha.own?_old_or_data hp with hold | ⟨x, w, hslot⟩
  · exact (hc s k' p hold).later ha.later
  · exact Slot.calm_of_data hslot

/-! ### The heap of an empty realm -/

/-- Whether a slot is calm, computed. -/
private def slotIsCalm (h : Heap) (k : Key) : Slot → Bool
  | .data _ _ => true
  | .accessor _ .undefined => true
  | .accessor _ setter =>
    match h.callable? setter with
    | some (.builtin .forbidden) => true
    | some (.builtin .prototypeSetter) => k == key prototypeName
    | _ => false

private theorem slot_calm {s : Slot} (hs : slotIsCalm h k s = true) : s.Calm h k := by
  unfold slotIsCalm at hs
  split at hs
  · trivial
  · exact .inl rfl
  · split at hs
    · exact .inr (.inl ‹_›)
    · exact .inr (.inr ⟨eq_of_beq hs, ‹_›⟩)
    · cases hs

private theorem standard_slots :
    ∀ o ∈ Heap.standard.objects, ∀ e ∈ o.properties,
      slotIsCalm Heap.standard e.1 e.2.slot = true := by
  decide +kernel

theorem standard : Heap.standard.Calm := by
  intro r k p hp
  rcases Object.plain_or_mem_of_own? hp with ⟨v, -, rfl⟩ | hmem
  · trivial
  · by_cases hr : r < Heap.standard.objects.size
    · rw [object, Array.getD_eq_getD_getElem?, Array.getElem?_eq_getElem hr,
        Option.getD_some] at hmem
      have hslot := standard_slots _ (Array.getElem_mem hr) _ hmem
      exact slot_calm hslot
    · rw [Heap.standard.object_of_size_le (Nat.le_of_not_lt hr)] at hmem
      cases hmem

/-- How much memory there is makes no difference to setters. -/
theorem withMemory (hc : h.Calm) (limit : Option Nat) : { h with memory := limit }.Calm := hc

end Heap.Calm

/-- No script has touched the heap.  Every object but an array takes every name. -/
def Ground.untouched : Ground where
  Good := Heap.Calm
  Takes h r _ := r < h.size ∧ (h.object r).isArray = false
  Free _ := True
  sure := False
  made := And.left
  noArray := And.right
  calm hc _ := hc.calmAt _ _
  writable := False.elim
  allocate {h o} hc ho := by
    refine ⟨hc.allocate ho, fun s _ ⟨hs, harray⟩ => ⟨?_, ?_⟩⟩
    · exact Nat.lt_trans hs (h.lt_size_allocate _)
    · rw [h.object_allocate_of_lt _ hs]
      exact harray
  fresh {h _} _ _ := by
    refine ⟨?_, ?_⟩
    · exact h.lt_size_allocate _
    · rw [h.object_allocate_self]
      rfl
  assign hc _ ha := by
    refine ⟨hc.assigns ha, fun s _ ⟨hs, harray⟩ => ⟨Nat.lt_of_lt_of_le hs ha.later.size_le, ?_⟩⟩
    unfold Object.isArray at harray ⊢
    rwa [ha.later.kind_eq s hs]

/-! ## Heaps in which scripts have left the prototype of plain objects alone -/

/-- What is found under a key runs no code of a script, and on sure ground can be written. -/
structure Slot.Fine (sure : Prop) (h : Heap) (k : Key) (s : Slot) : Prop where
  calm : s.Calm h k
  writable : sure → ∃ x, s = .data x true

theorem Slot.Fine.later {sure : Prop} (hl : h.Later h') {s : Slot} (hs : s.Fine sure h k) :
    s.Fine sure h' k :=
  ⟨hs.calm.later hl, hs.writable⟩

theorem Slot.fine_of_writable {sure : Prop} {s : Slot} {x : Val} (hs : s = .data x true) :
    s.Fine sure h k :=
  ⟨calm_of_data hs, fun _ => ⟨x, hs⟩⟩

/-- The prototype of plain objects inherits from nothing, and what it has is fine. -/
structure Heap.Rooted (sure : Prop) (h : Heap) : Prop where
  made : Place.objectPrototype < h.size
  noPrototype : (h.object Place.objectPrototype).prototype = none
  fine (name : String) (p : Property) : name ≠ prototypeName →
    (h.object Place.objectPrototype).own? (key name) = some p → p.slot.Fine sure h (key name)

/-- An object takes a name: it inherits from the prototype of plain objects, and what it has
under that name is fine. -/
structure Heap.TakesName (sure : Prop) (h : Heap) (r : ObjectRef) (name : String) : Prop where
  made : r < h.size
  noArray : (h.object r).isArray = false
  notRoot : r ≠ Place.objectPrototype
  prototype : (h.object r).prototype = some Place.objectPrototype
  extensible : sure → (h.object r).extensible = true
  otherName : name ≠ prototypeName
  fine (p : Property) : (h.object r).own? (key name) = some p → p.slot.Fine sure h (key name)

namespace Heap

variable {sure : Prop} {name : String}

theorem object_withMemory (h : Heap) (limit : Option Nat) (r : ObjectRef) :
    { h with memory := limit }.object r = h.object r := rfl

theorem size_withMemory (h : Heap) (limit : Option Nat) :
    { h with memory := limit }.size = h.size := rfl

/-- How much memory there is makes no difference to what can be assigned. -/
theorem Rooted.withMemory (hg : h.Rooted sure) (limit : Option Nat) :
    { h with memory := limit }.Rooted sure :=
  ⟨hg.made, hg.noPrototype, fun name p hname hp =>
    ⟨(hg.fine name p hname hp).calm, (hg.fine name p hname hp).writable⟩⟩

theorem TakesName.withMemory (ht : h.TakesName sure r name) (limit : Option Nat) :
    { h with memory := limit }.TakesName sure r name :=
  ⟨ht.made, ht.noArray, ht.notRoot, ht.prototype, ht.extensible, ht.otherName, fun p hp =>
    ⟨(ht.fine p hp).calm, (ht.fine p hp).writable⟩⟩

/-! ### Steps -/

namespace Rooted

/-- What is found from an object on is fine. -/
theorem found (hg : h.Rooted sure) (ht : h.TakesName sure r name) {owner : ObjectRef}
    {p : Property} (hp : h.findProperty? r (key name) = some (owner, p)) :
    p.slot.Fine sure h (key name) := by
  rcases own?_of_findProperty? ht.prototype hg.noPrototype hp with ⟨-, hown⟩ | ⟨-, hown⟩
  · exact ht.fine p hown
  · exact hg.fine name p ht.otherName hown

theorem allocate (hg : h.Rooted sure) (o : Object) : (h.allocate o).2.Rooted sure := by
  have hsame : (h.allocate o).2.object Place.objectPrototype = h.object Place.objectPrototype :=
    h.object_allocate_of_lt _ hg.made
  refine ⟨?_, hsame ▸ hg.noPrototype, fun name p hname hp => ?_⟩
  · exact Nat.lt_trans hg.made (h.lt_size_allocate _)
  · rw [hsame] at hp
    exact (hg.fine name p hname hp).later (.allocate h o)

theorem assigns (hg : h.Rooted sure) (ht : h.TakesName sure r name) {v : Val} {o : Outcome Unit}
    (ha : h.Assigns r (key name) v h' o) : h'.Rooted sure := by
  have hsame : h'.object Place.objectPrototype = h.object Place.objectPrototype :=
    ha.object_eq hg.made (Ne.symm ht.notRoot)
  refine ⟨Nat.lt_of_lt_of_le hg.made ha.later.size_le, hsame ▸ hg.noPrototype,
    fun name p hname hp => ?_⟩
  rw [hsame] at hp
  exact (hg.fine name p hname hp).later ha.later

end Rooted

namespace TakesName

theorem allocate (ht : h.TakesName sure r name) (o : Object) :
    (h.allocate o).2.TakesName sure r name := by
  have hsame : (h.allocate o).2.object r = h.object r :=
    h.object_allocate_of_lt _ ht.made
  refine ⟨?_, hsame ▸ ht.noArray, ht.notRoot, hsame ▸ ht.prototype, hsame ▸ ht.extensible,
    ht.otherName, fun p hp => ?_⟩
  · exact Nat.lt_trans ht.made (h.lt_size_allocate _)
  · rw [hsame] at hp
    exact (ht.fine p hp).later (.allocate h o)

/-- A new plain object takes every name but `__proto__`. -/
theorem new (hg : h.Rooted sure) (hname : name ≠ prototypeName) :
    (h.allocate (.ofKind .plain (some Place.objectPrototype))).2.TakesName sure h.size name := by
  have hnew : (h.allocate (.ofKind .plain (some Place.objectPrototype))).2.object h.size =
      .ofKind .plain (some Place.objectPrototype) :=
    h.object_allocate_self _
  refine ⟨?_, by rw [hnew]; rfl, Nat.ne_of_gt hg.made, by rw [hnew]; rfl,
    fun _ => by rw [hnew]; rfl, hname, fun p hp => ?_⟩
  · exact h.lt_size_allocate _
  · rw [hnew] at hp
    obtain ⟨k, hk⟩ := Object.holds_of_make (Object.holds_of_own? hp)
    cases hk

/-- An object takes the names that it took before one of them was assigned. -/
theorem assigns {assigned : String} (ht : h.TakesName sure s name)
    (hr : h.TakesName sure r assigned) {v : Val} {o : Outcome Unit}
    (ha : h.Assigns r (key assigned) v h' o) : h'.TakesName sure s name := by
  have hkind := ha.later.kind_eq s ht.made
  obtain ⟨hprototype, hextensible⟩ := ha.shape_eq (key_ne hr.otherName) ht.made
  refine ⟨Nat.lt_of_lt_of_le ht.made ha.later.size_le, ?_, ht.notRoot,
    hprototype.trans ht.prototype, fun hsure => hextensible.trans (ht.extensible hsure),
    ht.otherName, fun p hp => ?_⟩
  · have harray := ht.noArray
    unfold Object.isArray at harray ⊢
    rwa [hkind]
  · by_cases hsame : s = r ∧ key name = key assigned
    · obtain ⟨rfl, hkey⟩ := hsame
      rw [hkey] at hp
      rcases ha.own?_target ht.made hp with hold | hslot
      · rw [← hkey] at hold
        exact (ht.fine p hold).later ha.later
      · exact Slot.fine_of_writable hslot
    · have hold : (h'.object s).own? (key name) = (h.object s).own? (key name) := by
        by_cases hsr : s = r
        · subst hsr
          exact ha.own?_eq ht.made fun hkey => hsame ⟨rfl, hkey⟩
        · rw [ha.object_eq ht.made hsr]
      rw [hold] at hp
      exact (ht.fine p hp).later ha.later

end TakesName

end Heap

/-- Targets inherit from the prototype of plain objects alone. -/
def Ground.rooted (sure : Prop) : Ground where
  Good := Heap.Rooted sure
  Takes := Heap.TakesName sure
  Free name := name ≠ prototypeName
  sure := sure
  made := Heap.TakesName.made
  noArray := Heap.TakesName.noArray
  calm hg ht _ _ hp := (hg.found ht hp).calm
  writable hsure hg ht := ⟨ht.extensible hsure, fun _ _ hp => (hg.found ht hp).writable hsure⟩
  allocate hg _ := ⟨hg.allocate _, fun _ _ ht => ht.allocate _⟩
  fresh := Heap.TakesName.new
  assign hg ht ha := ⟨hg.assigns ht ha, fun _ _ hs => hs.assigns ht ha⟩

/-! ## The global object of an empty realm -/

end ScriptHost.Script
