import ScriptHost.Proofs.Script.Refs
import ScriptHost.Script.Standard

/-!
# The heap of an empty realm is sound

A fresh realm refers to its own objects only and has no host function.  That is a fact
about one large heap, so it is computed: `Object.closed` reads off an object whether all
of its references stay below a bound.  Such references are allowed by every rule.
-/

namespace ScriptHost.Script

variable {R : RefRule} {n : Nat}

/-! ## References below a bound -/

def Val.below (n : Nat) : Val → Bool
  | .object r => r < n
  | _ => true

def Slot.below (n : Nat) : Slot → Bool
  | .data v _ => v.below n
  | .accessor g s => g.below n && s.below n

/-- An object that only a fresh realm has: a function of the language, a boxed value or one
without work, with its references below a bound. -/
def Object.closed (n : Nat) (o : Object) : Bool :=
  (match o.kind with
    | .function (.builtin _) => true
    | .function _ => false
    | .boxed v => v.below n
    | _ => true) &&
    o.prototype.all (· < n) && o.elements.all (Val.below n) &&
    o.properties.all fun e => e.2.slot.below n

theorem Val.sound_of_below {v : Val} (hv : v.below n = true) : v.Sound R n := by
  cases v with
  | object r => exact R.existing (of_decide_eq_true hv)
  | _ => trivial

theorem Slot.sound_of_below {s : Slot} (hs : s.below n = true) : s.Sound R n := by
  cases s with
  | data v w => exact Val.sound_of_below hs
  | accessor g s =>
      obtain ⟨hg, hs⟩ := Bool.and_eq_true_iff.mp hs
      exact ⟨Val.sound_of_below hg, Val.sound_of_below hs⟩

namespace Object

variable {o : Object}

theorem sound_of_closed (ho : o.closed n = true) : o.Sound R n := by
  simp only [closed, Bool.and_eq_true] at ho
  obtain ⟨⟨⟨hkind, hprototype⟩, helements⟩, hproperties⟩ := ho
  refine ⟨?_, fun p hp => ?_, fun p hp => ?_⟩
  · split at hkind
    · rename_i b hb
      rw [hb]
      trivial
    · cases hkind
    · rename_i v hv
      rw [hv]
      exact Val.sound_of_below hkind
    · rename_i hfunction hboxed
      cases hk : o.kind with
      | function c => exact absurd hk (hfunction c)
      | boxed v => exact absurd hk (hboxed v)
      | _ => trivial
  · rw [Option.mem_def.mp hp] at hprototype
    exact R.existing (of_decide_eq_true hprototype)
  · rcases hp with ⟨v, hv, rfl⟩ | ⟨k, hk⟩
    · refine Property.sound_plain (Val.sound_of_below ?_)
      exact Array.all_eq_true'.mp helements v hv
    · exact Slot.sound_of_below (List.all_eq_true.mp hproperties _ hk)

theorem not_native_of_closed (ho : o.closed n = true) (k : NativeKey) :
    o.kind ≠ .function (.native k) := by
  intro hk
  simp only [closed, hk, Bool.false_and] at ho
  cases ho

end Object

/-! ## The empty realm -/

private theorem standard_facts :
    (Place.forbidden < Heap.standard.size ∧ Heap.standard.scopes.size = 1 ∧
      (Heap.standard.scope 0).bindings = []) ∧
      Heap.standard.objects.all (Object.closed Heap.standard.size) = true := by
  decide +kernel

namespace Heap

private theorem standard_object (r : ObjectRef) :
    Heap.standard.object r = default ∨
      (Heap.standard.object r).closed Heap.standard.size = true := by
  by_cases hr : r < Heap.standard.objects.size
  · refine .inr (Array.all_eq_true'.mp standard_facts.2 _ ?_)
    unfold object
    rw [Array.getD_eq_getD_getElem?, Array.getElem?_eq_getElem hr, Option.getD_some]
    exact Array.getElem_mem hr
  · exact .inl (Heap.standard.object_of_size_le (Nat.le_of_not_lt hr))

theorem standard_sound : Heap.standard.Sound R := by
  obtain ⟨⟨hplaces, hscopes, hscope⟩, -⟩ := standard_facts
  refine ⟨hplaces, fun r => ?_, fun r => ?_⟩
  · rcases standard_object r with hr | hr
    · rw [hr]
      exact Object.sound_default
    · exact Object.sound_of_closed hr
  · intro b hb
    rcases Nat.lt_or_ge r 1 with hr | hr
    · rw [Nat.lt_one_iff.mp hr, hscope] at hb
      exact absurd hb List.not_mem_nil
    · unfold scope at hb
      rw [Array.getD_eq_getD_getElem?, Array.getElem?_eq_none (hscopes ▸ hr)] at hb
      exact absurd hb List.not_mem_nil

theorem standard_native? (r : ObjectRef) : Heap.standard.native? r = none := by
  unfold native?
  rcases standard_object r with hr | hr
  · rw [hr]
    rfl
  · split
    · exact absurd ‹_› (Object.not_native_of_closed hr _)
    · rfl

end Heap

end ScriptHost.Script
