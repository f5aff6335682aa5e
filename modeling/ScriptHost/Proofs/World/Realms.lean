import Mathlib
import ScriptHost.World.Basic

/-!
# Looking into a world that changes

Each change of the world concerns one realm, or none.  What the lemmas here say is
which realm that is and what stays as it is; they are what later files use instead of
the definitions.
-/

namespace ScriptHost.World

variable {φ σ : Type} (w : World φ σ)

/-! ## Changing one realm -/

theorem realm_of_size_le {r : RealmRef} (hr : w.realms.size ≤ r) : w.realm r = default := by
  unfold realm
  rw [Array.getD_eq_getD_getElem?, Array.getElem?_eq_none hr]
  rfl

theorem realm_modifyRealm (r s : RealmRef) (f : Realm φ → Realm φ) :
    (w.modifyRealm r f).realm s =
      if r = s ∧ s < w.realms.size then f (w.realm s) else w.realm s := by
  unfold realm modifyRealm
  simp only [Array.getD_eq_getD_getElem?, Array.getElem?_modify]
  by_cases hs : s < w.realms.size <;> by_cases hrs : r = s <;> simp [hs, hrs]

@[simp] theorem size_modifyRealm (r : RealmRef) (f : Realm φ → Realm φ) :
    (w.modifyRealm r f).realms.size = w.realms.size := Array.size_modify

/-- A change that keeps a part of every realm keeps that part of the changed one. -/
theorem realm_modifyRealm_congr {β : Type} (part : Realm φ → β) (r s : RealmRef)
    {f : Realm φ → Realm φ} (hf : ∀ x, part (f x) = part x) :
    part ((w.modifyRealm r f).realm s) = part (w.realm s) := by
  rw [w.realm_modifyRealm]
  split
  · exact hf _
  · rfl

/-! ## Heaps -/

@[simp] theorem idOf_setHeap (r s : RealmRef) (h : Script.Heap) :
    (w.setHeap r h).idOf s = w.idOf s :=
  w.realm_modifyRealm_congr Realm.id r s fun _ => rfl

@[simp] theorem natives_setHeap (r s : RealmRef) (h : Script.Heap) :
    ((w.setHeap r h).realm s).natives = (w.realm s).natives :=
  w.realm_modifyRealm_congr Realm.natives r s fun _ => rfl

@[simp] theorem size_setHeap (r : RealmRef) (h : Script.Heap) :
    (w.setHeap r h).realms.size = w.realms.size := w.size_modifyRealm r _

theorem heap_setHeap_self {r : RealmRef} (hr : r < w.realms.size) (h : Script.Heap) :
    (w.setHeap r h).heap r = h := by
  unfold heap setHeap
  rw [w.realm_modifyRealm, if_pos ⟨rfl, hr⟩]
  rfl

theorem heap_setHeap_ne {r s : RealmRef} (hrs : r ≠ s) (h : Script.Heap) :
    (w.setHeap r h).heap s = w.heap s := by
  unfold heap setHeap
  rw [w.realm_modifyRealm, if_neg fun hand => hrs hand.1]

/-! ## Tables of host functions -/

@[simp] theorem heap_register (r s : RealmRef) (f : φ) : (w.register r f).2.heap s = w.heap s :=
  w.realm_modifyRealm_congr Realm.heap r s fun _ => rfl

@[simp] theorem idOf_register (r s : RealmRef) (f : φ) : (w.register r f).2.idOf s = w.idOf s :=
  w.realm_modifyRealm_congr Realm.id r s fun _ => rfl

@[simp] theorem size_register (r : RealmRef) (f : φ) :
    (w.register r f).2.realms.size = w.realms.size := w.size_modifyRealm r _

/-! ## New realms -/

theorem realm_addRealm (backend : String) (state : RealmState) (stack : Script.Stack)
    (s : RealmRef) : (w.addRealm backend state stack).2.realm s =
      if s = w.realms.size then ⟨w.nextRealm, backend, #[], state, stack⟩ else w.realm s := by
  unfold realm addRealm
  simp only [Array.getD_eq_getD_getElem?, Array.getElem?_push]
  split
  · rfl
  · rfl

@[simp] theorem size_addRealm (backend : String) (state : RealmState) (stack : Script.Stack) :
    (w.addRealm backend state stack).2.realms.size = w.realms.size + 1 := Array.size_push _

@[simp] theorem ref_addRealm (backend : String) (state : RealmState) (stack : Script.Stack) :
    (w.addRealm backend state stack).1 = w.realms.size := rfl

theorem heap_addRealm_self (backend : String) (h : Script.Heap) (stack : Script.Stack) :
    (w.addRealm backend (.script h) stack).2.heap w.realms.size = h := by
  unfold heap
  rw [w.realm_addRealm, if_pos rfl]
  rfl

/-- Only a realm that was made runs scripts. -/
theorem lt_size_of_isScript {r : RealmRef} (h : (w.realm r).isScript = true) :
    r < w.realms.size := by
  rcases Nat.lt_or_ge r w.realms.size with hr | hr
  · exact hr
  · rw [w.realm_of_size_le hr] at h
    cases h

/-! ## Contexts -/

section Context

variable {w : World φ σ} {r context : RealmRef}

theorem lt_size_of_context? (h : w.context? r = some context) : r < w.realms.size := by
  unfold context? at h
  split at h
  · assumption
  · cases h

/-- A context that is there is a live one, and carries the identifier. -/
theorem mem_live_of_context? (h : w.context? r = some context) :
    context ∈ w.live ∧ w.idOf context = w.idOf r := by
  rw [context?, if_pos (lt_size_of_context? h)] at h
  have hid := List.find?_some h
  exact ⟨List.mem_of_find?_eq_some h, by simpa using hid⟩

end Context

end ScriptHost.World
