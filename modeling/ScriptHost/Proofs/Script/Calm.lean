import ScriptHost.Proofs.Script.Assign
import ScriptHost.Proofs.Script.HostError
import ScriptHost.Proofs.Text.Index

/-!
# Assignments that run no code of a script

An assignment follows the prototypes of its target until it finds a property of that name.  If
what it finds is no setter that a script has put there, all that can happen is one of four
things: an error is thrown, a property is put on the target, the prototype of the target is
replaced, or nothing.  The last two happen under the name `__proto__` only.

`Assigns` lists them, and `setProperty_assigns` says that there are no others.  What an
assignment leaves alone, and what it leaves on the target, is then read off the list.
-/

namespace ScriptHost.Script

/-! ## The properties of an object after one was put there -/

/-- Keys with the same index are the same. -/
theorem Key.index?_injective {k k' : Key} {i : Nat} (hk : k.index? = some i)
    (hk' : k'.index? = some i) : k = k' := by
  cases k with
  | symbol id => cases hk
  | name s =>
      cases k' with
      | symbol id => cases hk'
      | name t => rw [Units.arrayIndex?_injective hk hk']

/-- What stands under a key after a property was put there, if that leaves the row as it is or
the property can be in the row. -/
theorem Object.own?_put_of_plain (o : Object) {k : Key} {p : Property}
    (hp : p.plain?.isSome = true ∨ o.element? k = none) (k' : Key) :
    (o.put k p).own? k' = if k' = k then some p else o.own? k' := by
  cases hk : k.index? with
  | none => exact o.own?_put hk p k'
  | some i =>
      have helement : o.element? k = o.elements[i]? := by
        unfold Object.element?
        rw [hk]
        rfl
      have hother {k' : Key} (hne : k' ≠ k) {j : Nat} (hj : k'.index? = some j) : j ≠ i :=
        fun hji => hne (Key.index?_injective hj (hji ▸ hk))
      -- The list changes, and the row has nothing under the key.
      have hlist (hnone : o.elements[i]? = none) :
          Object.own? { o with properties := putKey k p o.properties } k' =
            if k' = k then some p else o.own? k' := by
        have hsame : Object.element? { o with properties := putKey k p o.properties } k' =
            o.element? k' := rfl
        unfold Object.own?
        by_cases hkk : k' = k
        · subst hkk
          simp only [hsame, helement, hnone, findKey?_putKey, if_true]
        · simp only [hsame, findKey?_putKey, if_neg hkk]
      -- The row changes at the place of the key.
      have hrow {elements : Array Val} {v : Val} (hpv : p = .plain v)
          (hhere : elements[i]? = some v) (hthere : ∀ j, j ≠ i → elements[j]? = o.elements[j]?) :
          Object.own? { o with elements := elements } k' =
            if k' = k then some p else o.own? k' := by
        unfold Object.own?
        by_cases hkk : k' = k
        · subst hkk
          simp only [Object.element?, hk, Option.bind_some, hhere, hpv, if_true]
        · have hsame : Object.element? { o with elements := elements } k' = o.element? k' := by
            unfold Object.element?
            cases hj : k'.index? with
            | none => rfl
            | some j => exact hthere j (hother hkk hj)
          simp only [hsame, if_neg hkk]
      simp only [Object.put, hk]
      split
      · rename_i hi
        rw [helement, Array.getElem?_eq_getElem hi] at hp
        obtain ⟨v, hv⟩ := Option.isSome_iff_exists.mp (hp.resolve_right fun hnone => by cases hnone)
        rw [hv]
        refine hrow (eq_plain_of_plain? hv) ?_ fun j hj => ?_
        · exact Array.getElem?_setIfInBounds_self_of_lt hi
        · exact Array.getElem?_setIfInBounds_ne (Ne.symm hj)
      · rename_i hi
        have hnone : o.elements[i]? = none := Array.getElem?_eq_none (Nat.le_of_not_lt hi)
        split
        · rename_i hpush
          simp only [Bool.and_eq_true, decide_eq_true_eq] at hpush
          obtain ⟨⟨rfl, hplain⟩, -⟩ := hpush
          obtain ⟨v, hv⟩ := Option.isSome_iff_exists.mp hplain
          rw [hv]
          refine hrow (eq_plain_of_plain? hv) ?_ fun j hj => ?_
          · rw [Option.getD_some, Array.getElem?_push_size]
          · rw [Array.getElem?_push, if_neg hj]
        · exact hlist hnone

/-- The row gets at most one element longer. -/
theorem Object.size_elements_put_le (o : Object) (k : Key) (p : Property) :
    (o.put k p).elements.size ≤ o.elements.size + 1 := by
  unfold Object.put
  split
  · exact Nat.le_succ _
  · split
    · split
      · rw [Array.size_setIfInBounds]
        exact Nat.le_succ _
      · exact Nat.zero_le _
    · split
      · rw [Array.size_push]
      · exact Nat.le_succ _

/-! ## What an assignment does -/

/-- Assigning to a slot that is found under a key runs no code of a script.  The setter for
prototypes counts under its own name only. -/
def Slot.Calm (h : Heap) (k : Key) : Slot → Prop
  | .data _ _ => True
  | .accessor _ setter =>
    setter = .undefined ∨ h.callable? setter = some (.builtin .forbidden) ∨
      k = key prototypeName ∧ h.callable? setter = some (.builtin .prototypeSetter)

/-- What is found under a key from an object on is calm. -/
def Heap.CalmAt (h : Heap) (r : ObjectRef) (k : Key) : Prop :=
  ∀ owner p, h.findProperty? r k = some (owner, p) → p.slot.Calm h k

/-- What an assignment of a value under a key of an object does to a heap. -/
inductive Heap.Assigns (r : ObjectRef) (k : Key) (v : Val) (h : Heap) :
    Heap → Outcome Unit → Prop
  | failed (o : Object) (ho : ∀ p, o.Holds p → ∃ x w, p.slot = .data x w) :
      Assigns r k v h (h.allocate o).2 (.thrown (.object h.size))
  /-- Not even an error could be made. -/
  | refused : Assigns r k v h h (.thrown .null)
  | put (p : Property) (hslot : p.slot = .data v true)
      (hplain : p.plain?.isSome = true ∨ (h.object r).element? k = none) :
      Assigns r k v h (h.modify r fun o => o.put k p) (.returned ())
  | inherited (hk : k = key prototypeName) (p : Option ObjectRef) :
      Assigns r k v h (h.modify r fun o => { o with prototype := p }) (.returned ())
  | ignored (hk : k = key prototypeName) : Assigns r k v h h (.returned ())

/-- Code finishes by itself, and does what an assignment does. -/
def Action.AssignsAt {α : Type} (r : ObjectRef) (k : Key) (v : Val) (h : Heap)
    (x : Action α) : Prop :=
  ∃ h' o, x h = .finished h' o ∧
    ((∃ a, o = .returned a ∧ h.Assigns r k v h' (.returned ())) ∨
      ∃ e, o = .thrown e ∧ h.Assigns r k v h' (.thrown e))

section Parts

variable {α β : Type} {ev : Evaluator} {h : Heap} {r : ObjectRef} {k : Key} {v : Val}

/-- What is found is a property of its owner. -/
theorem Heap.own?_owner {owner : ObjectRef} {p : Property}
    (hf : h.findProperty? r k = some (owner, p)) : (h.object owner).own? k = some p := by
  suffices hgo : ∀ fuel r, Heap.findProperty?.go h k fuel r = some (owner, p) →
      (h.object owner).own? k = some p from hgo _ _ hf
  intro fuel
  induction fuel with
  | zero => intro r hr; cases hr
  | succ fuel ih =>
      intro r hr
      simp only [Heap.findProperty?.go] at hr
      split at hr
      · rename_i q hq
        cases hr
        exact hq
      · split at hr
        · exact ih _ hr
        · cases hr

namespace Action

theorem assignsAt_read_bind {f : Heap → α} {g : α → Action β} (hg : AssignsAt r k v h (g (f h))) :
    AssignsAt r k v h (read f >>= g) := hg

theorem assignsAt_bind_pure {x : Action α} (hx : AssignsAt r k v h x) (b : β) :
    AssignsAt r k v h (x >>= fun _ => pure b) := by
  obtain ⟨h', o, hrun, ⟨a, rfl, hdone⟩ | ⟨e, rfl, hdone⟩⟩ := hx
  · refine ⟨h', .returned b, ?_, .inl ⟨b, rfl, hdone⟩⟩
    change (x h).andThen _ = _
    rw [hrun]
    rfl
  · refine ⟨h', .thrown e, ?_, .inr ⟨e, rfl, hdone⟩⟩
    change (x h).andThen _ = _
    rw [hrun]
    rfl

theorem assignsAt_newError (t : ErrorType) (message stack : Option Units) :
    AssignsAt r k v h (do
      let e ← newError t message stack
      (raise e : Action α)) := by
  refine ⟨_, _, rfl, .inr ⟨_, rfl, .failed _ fun p hp => ?_⟩⟩
  obtain ⟨k', hk'⟩ := Object.holds_of_make hp
  obtain ⟨s, rfl⟩ := data_of_mem_errorProperties hk'
  exact ⟨_, _, rfl⟩

/-- A new object can be another one from the start. -/
private theorem setObject_allocate (h : Heap) (o o' : Object) :
    (h.allocate o).2.setObject h.size o' = (h.allocate o').2 := by
  simp only [Heap.setObject, Heap.allocate, Heap.size]
  congr 1
  exact Array.ext (by simp) fun i _ _ => by grind

/-- The error that leaves a frame is given its stack trace there. -/
theorem assignsAt_framed {x : Action α} (s : Stack) (hx : AssignsAt r k v h x) :
    AssignsAt r k v h (framed s x) := by
  obtain ⟨h', o, hrun, ⟨a, rfl, hdone⟩ | ⟨e, rfl, hdone⟩⟩ := hx
  · exact ⟨h', _, framed_finished s hrun, .inl ⟨a, rfl, hdone⟩⟩
  · cases hdone with
    | failed o ho =>
        have hnew : (h.allocate o).2.object h.size = o := h.object_allocate_self o
        by_cases hbare : (o.isError && o.extensible && (o.own? (key "stack")).isNone) = true
        · refine ⟨(h.allocate (o.put (key "stack") (.hidden (.string s.trace)))).2, _,
            (framed_finished s hrun).trans ?_, .inr ⟨_, rfl, .failed _ fun p hp => ?_⟩⟩
          · have htraced : traced s (.object h.size) (h.allocate o).2 =
                .finished ((h.allocate o).2.setObject h.size
                  (o.put (key "stack") (.hidden (.string s.trace)))) (.returned ()) := by
              simp only [traced, change, hnew, hbare, if_true]
            refine (bind_finished htraced).trans ?_
            rw [setObject_allocate]
            rfl
          · rcases Object.holds_of_put hp with hp | rfl
            · exact ho p hp
            · exact ⟨_, _, rfl⟩
        · refine ⟨(h.allocate o).2, _, (framed_finished s hrun).trans ?_,
            .inr ⟨_, rfl, .failed o ho⟩⟩
          have htraced : traced s (.object h.size) (h.allocate o).2 =
              .finished (h.allocate o).2 (.returned ()) := by
            simp only [traced, change, hnew, if_neg hbare]
          exact (bind_finished htraced).trans rfl
    | refused => exact ⟨h, _, framed_finished s hrun, .inr ⟨_, rfl, .refused⟩⟩

end Action

theorem assignsAt_raiseError (t : ErrorType) (message : Units) :
    (raiseError t message : Action α).AssignsAt r k v h :=
  Action.assignsAt_newError t _ _

theorem assignsAt_raiseAboutKey (t : ErrorType) (front : String) (k' : Key) (back : String) :
    (raiseAboutKey t front k' back : Action α).AssignsAt r k v h :=
  Action.assignsAt_read_bind (assignsAt_raiseError t _)

theorem assignsAt_refusal (e : Refusal) : e.raise.AssignsAt r k v h := by
  cases e with
  | error t message stack => exact Action.assignsAt_newError t _ _
  | bare => exact ⟨h, _, rfl, .inr ⟨_, rfl, .refused⟩⟩

theorem assignsAt_reserveProperty_bind {g : Unit → Action α}
    (hg : (g ()).AssignsAt r k v h) : (reserveProperty ev r >>= g).AssignsAt r k v h := by
  obtain ⟨h', o, hrun, hassigns⟩ := hg
  by_cases hplace : ev.HasPlace h r
  · exact ⟨h', o, (Action.bind_finished (reserveProperty_eq hplace)).trans hrun, hassigns⟩
  · -- There is a row, and it cannot grow.
    simp only [Evaluator.HasPlace, Classical.not_imp, Bool.not_eq_true] at hplace
    obtain ⟨hrow, hgrants⟩ := hplace
    have hraise : reserveProperty ev r h =
        (raiseError .internal (text "out of memory") : Action Unit) h := by
      simp only [reserveProperty, reserve, bind, Action.bind, Action.read, Run.andThen_finished,
        if_neg hrow, hgrants, Bool.false_eq_true, if_false]
    refine ⟨_, _, Action.bind_thrown (hraise.trans rfl), .inr ⟨_, rfl, .failed _ fun p hp => ?_⟩⟩
    obtain ⟨k', hk'⟩ := Object.holds_of_make hp
    obtain ⟨s, rfl⟩ := data_of_mem_errorProperties hk'
    exact ⟨_, _, rfl⟩

/-- A new property that is plain is put on an object that is no array. -/
theorem assignsAt_addProperty (hisArray : (h.object r).isArray = false) :
    (addProperty ev r k v).AssignsAt r k v h := by
  have hdefine : (h.modify r fun o => o.define k (.plain v)) =
      h.modify r fun o => o.put k (.plain v) := by
    rw [← h.setObject_eq_modify r, ← h.setObject_eq_modify r]
    simp only [Object.define, hisArray, Bool.false_eq_true, if_false]
  refine Action.assignsAt_read_bind ?_
  split
  · exact assignsAt_raiseError .type _
  · refine assignsAt_reserveProperty_bind ⟨_, _, rfl, .inl ⟨(), rfl, ?_⟩⟩
    change h.Assigns r k v (h.modify r fun o => o.define k (.plain v)) (.returned ())
    rw [hdefine]
    exact .put _ rfl (.inl rfl)

/-- An own property is given another value, and stays what it is otherwise. -/
theorem assignsAt_storeProperty {x : Val} {writable e c : Bool}
    (hown : (h.object r).own? k = some ⟨.data x writable, e, c⟩) :
    (storeProperty r k e c v).AssignsAt r k v h := by
  refine ⟨_, _, rfl, .inl ⟨(), rfl, .put _ rfl ?_⟩⟩
  unfold Object.own? at hown
  cases helement : (h.object r).element? k with
  | none => exact .inr rfl
  | some y =>
      rw [helement] at hown
      cases hown
      exact .inl rfl

/-! ### Setters of an empty realm -/

theorem assignsAt_setPrototype (hk : k = key prototypeName) (p : Option ObjectRef) :
    (setPrototype r p).AssignsAt r k v h := by
  refine Action.assignsAt_read_bind (Action.assignsAt_read_bind ?_)
  split
  · exact ⟨_, _, rfl, .inl ⟨(), rfl, .ignored hk⟩⟩
  · split
    · exact assignsAt_raiseError .type _
    · split
      · exact assignsAt_raiseError .type _
      · split
        · exact assignsAt_raiseError .type _
        · exact ⟨_, _, rfl, .inl ⟨(), rfl, .inherited hk p⟩⟩

theorem assignsAt_assignPrototype (hk : k = key prototypeName) (x : Val) :
    (assignPrototype (.object r) x).AssignsAt r k v h := by
  unfold assignPrototype
  split
  · rename_i htarget
    cases htarget
  · rename_i htarget
    cases htarget
  · rename_i htarget _
    cases htarget
    exact Action.assignsAt_bind_pure (assignsAt_setPrototype hk _) _
  · exact ⟨_, _, rfl, .inl ⟨_, rfl, .ignored hk⟩⟩

/-- The setter for prototypes replaces one, the setter that guards refuses, and any call may
be refused. -/
theorem assignsAt_callSetter (hev : ev.Sets) {getter setter : Val}
    (hcalm : (Slot.accessor getter setter).Calm h k) :
    (callSetter ev setter (.object r) v).AssignsAt r k v h := by
  unfold callSetter
  split
  · exact assignsAt_raiseError .type _
  · rename_i hdefined
    refine Action.assignsAt_bind_pure ?_ ()
    have hcall {b : Builtin} (hb : h.callable? setter = some (.builtin b))
        (htame : b = .prototypeSetter ∨ b = .forbidden)
        (hdone : ∀ inside, (callBuiltin inside b (.object r) [v]).AssignsAt r k v h) :
        (ev.call setter (.object r) [v]).AssignsAt r k v h := by
      rcases hev hb htame (.object r) [v] with ⟨e, he⟩ | ⟨inside, hinside⟩
      · obtain ⟨h', o, hrun, hassigns⟩ := assignsAt_refusal (r := r) (k := k) (v := v) (h := h) e
        exact ⟨h', o, he.trans hrun, hassigns⟩
      · obtain ⟨h', o, hrun, hassigns⟩ := Action.assignsAt_framed inside.stack (hdone inside)
        exact ⟨h', o, hinside.trans hrun, hassigns⟩
    rcases hcalm with rfl | hb | ⟨hk, hb⟩
    · exact absurd rfl hdefined
    · exact hcall hb (.inr rfl) fun _ => assignsAt_raiseError .type _
    · exact hcall hb (.inl rfl) fun _ => assignsAt_assignPrototype hk v

end Parts

/-- An assignment to an object that is no array finishes by itself if what it finds is calm. -/
theorem setProperty_assigns {h : Heap} {r : ObjectRef} {k : Key}
    (hisArray : (h.object r).isArray = false) (hcalm : h.CalmAt r k) {ev : Evaluator}
    (hev : ev.Sets) (v : Val) :
    ∃ h' o, setProperty ev (.object r) k v h = .finished h' o ∧ h.Assigns r k v h' o := by
  have hassigns : (setProperty ev (.object r) k v).AssignsAt r k v h := by
    change (Action.read (fun h => h.findProperty? r k) >>= fun found => _).AssignsAt r k v h
    refine Action.assignsAt_read_bind (Action.assignsAt_read_bind ?_)
    have hself : (Val.object r != Val.object r) = false := by simp
    simp only [hisArray, Bool.and_false, hself, Bool.false_eq_true, if_false]
    split
    · rename_i owner x writable e c hfound
      split
      · exact assignsAt_raiseAboutKey .type _ _ _
      · split
        · rename_i howner
          subst howner
          exact assignsAt_storeProperty (Heap.own?_owner hfound)
        · exact assignsAt_addProperty hisArray
    · rename_i getter setter e c hfound
      exact assignsAt_callSetter hev (hcalm _ _ hfound)
    · exact assignsAt_addProperty hisArray
  obtain ⟨h', o, hrun, ⟨a, rfl, hdone⟩ | ⟨e, rfl, hdone⟩⟩ := hassigns
  · exact ⟨h', .returned a, hrun, hdone⟩
  · exact ⟨h', .thrown e, hrun, hdone⟩

/-! ## What an assignment leaves -/

theorem Slot.Calm.later {h h' : Heap} (hl : h.Later h') {k : Key} {s : Slot} (hs : s.Calm h k) :
    s.Calm h' k := by
  cases s with
  | data x writable => trivial
  | accessor getter setter =>
      exact hs.imp_right fun hs => hs.imp hl.callable? fun ⟨hk, hb⟩ => ⟨hk, hl.callable? hb⟩

theorem Slot.calm_of_data {h : Heap} {k : Key} {s : Slot} {x : Val} {w : Bool}
    (hs : s = .data x w) : s.Calm h k := by
  subst hs
  trivial

namespace Heap.Assigns

variable {h h' : Heap} {r s : ObjectRef} {k k' : Key} {v : Val} {o : Outcome Unit}

theorem later (ha : h.Assigns r k v h' o) : h.Later h' := by
  cases ha with
  | failed o _ => exact .allocate h o
  | refused => exact .refl h
  | put p _ _ => exact .modify h r fun o => (o.shape_put k p).kind
  | inherited _ p => exact .modify h r fun _ => rfl
  | ignored _ => exact .refl h

/-- How much memory there is does not change. -/
theorem memory_eq (ha : h.Assigns r k v h' o) : h'.memory = h.memory := by
  cases ha <;> rfl

/-- Only the target changes. -/
theorem object_eq (ha : h.Assigns r k v h' o) (hs : s < h.size) (hsr : s ≠ r) :
    h'.object s = h.object s := by
  cases ha with
  | failed o _ => rw [h.object_allocate_of_lt _ hs]
  | refused => rfl
  | put p _ _ => rw [h.object_modify, if_neg fun hand => hsr hand.1.symm]
  | inherited _ p => rw [h.object_modify, if_neg fun hand => hsr hand.1.symm]
  | ignored _ => rfl

/-- The target changes under the key of the assignment only. -/
theorem own?_eq (ha : h.Assigns r k v h' o) (hr : r < h.size) (hk' : k' ≠ k) :
    (h'.object r).own? k' = (h.object r).own? k' := by
  cases ha with
  | failed o _ => rw [h.object_allocate_of_lt _ hr]
  | refused => rfl
  | put p hslot hplain =>
      rw [h.object_modify, if_pos ⟨rfl, hr⟩, Object.own?_put_of_plain _ hplain, if_neg hk']
  | inherited _ p =>
      rw [h.object_modify, if_pos ⟨rfl, hr⟩]
      rfl
  | ignored _ => rfl

/-- After an assignment under another name than `__proto__` the value is there. -/
theorem own?_self (ha : h.Assigns r k v h' (.returned ())) (hr : r < h.size)
    (hk : k ≠ key prototypeName) :
    ∃ p, (h'.object r).own? k = some p ∧ p.slot = .data v true := by
  cases ha with
  | put p hslot hplain =>
      refine ⟨p, ?_, hslot⟩
      rw [h.object_modify, if_pos ⟨rfl, hr⟩, Object.own?_put_of_plain _ hplain, if_pos rfl]
  | inherited hproto p => exact absurd hproto hk
  | ignored hproto => exact absurd hproto hk

/-- Under the key of the assignment stands what stood there, or the value. -/
theorem own?_target (ha : h.Assigns r k v h' o) (hr : r < h.size) {p : Property}
    (hp : (h'.object r).own? k = some p) :
    (h.object r).own? k = some p ∨ p.slot = .data v true := by
  cases ha with
  | failed o _ =>
      rw [h.object_allocate_of_lt _ hr] at hp
      exact .inl hp
  | refused => exact .inl hp
  | put q hslot hplain =>
      rw [h.object_modify, if_pos ⟨rfl, hr⟩, Object.own?_put_of_plain _ hplain, if_pos rfl] at hp
      cases hp
      exact .inr hslot
  | inherited _ q =>
      rw [h.object_modify, if_pos ⟨rfl, hr⟩] at hp
      exact .inl hp
  | ignored _ => exact .inl hp

/-- What is new on an object holds a value. -/
theorem own?_old_or_data (ha : h.Assigns r k v h' o) {p : Property}
    (hp : (h'.object s).own? k' = some p) :
    (h.object s).own? k' = some p ∨ ∃ x w, p.slot = .data x w := by
  cases ha with
  | failed o ho =>
      rw [h.object_allocate] at hp
      split at hp
      · exact .inr (ho p (Object.holds_of_own? hp))
      · exact .inl hp
  | refused => exact .inl hp
  | put q hslot hplain =>
      rw [h.object_modify] at hp
      split at hp
      · rename_i hand
        obtain ⟨rfl, -⟩ := hand
        rw [Object.own?_put_of_plain _ hplain] at hp
        split at hp
        · cases hp
          exact .inr ⟨_, _, hslot⟩
        · exact .inl hp
      · exact .inl hp
  | inherited _ q =>
      rw [h.object_modify] at hp
      split at hp
      · exact .inl hp
      · exact .inl hp
  | ignored _ => exact .inl hp

/-- Another name than `__proto__` leaves prototypes alone, and what can be extended. -/
theorem shape_eq (ha : h.Assigns r k v h' o) (hk : k ≠ key prototypeName) (hs : s < h.size) :
    (h'.object s).prototype = (h.object s).prototype ∧
      (h'.object s).extensible = (h.object s).extensible := by
  cases ha with
  | failed o _ =>
      rw [h.object_allocate_of_lt _ hs]
      exact ⟨rfl, rfl⟩
  | refused => exact ⟨rfl, rfl⟩
  | put p _ _ =>
      rw [h.object_modify]
      split
      · exact ⟨((h.object s).shape_put k p).prototype, (h.object s).extensible_put k p⟩
      · exact ⟨rfl, rfl⟩
  | inherited hproto p => exact absurd hproto hk
  | ignored hproto => exact absurd hproto hk

/-- The row of the target gets at most one element longer. -/
theorem size_elements_le (ha : h.Assigns r k v h' o) (hr : r < h.size) :
    (h'.object r).elements.size ≤ (h.object r).elements.size + 1 := by
  cases ha with
  | failed o _ =>
      rw [h.object_allocate_of_lt _ hr]
      exact Nat.le_succ _
  | refused => exact Nat.le_succ _
  | put p _ _ =>
      rw [h.object_modify, if_pos ⟨rfl, hr⟩]
      exact Object.size_elements_put_le ..
  | inherited _ p =>
      rw [h.object_modify, if_pos ⟨rfl, hr⟩]
      exact Nat.le_succ _
  | ignored _ => exact Nat.le_succ _

end Heap.Assigns

/-- An assignment returns if what it finds is data that can be written and the engine has the
memory for one more property. -/
theorem setProperty_returns {h : Heap} {r : ObjectRef} {k : Key} {ev : Evaluator}
    (hisArray : (h.object r).isArray = false) (hextensible : (h.object r).extensible = true)
    (hplace : ev.HasPlace h r)
    (hfound : ∀ owner p, h.findProperty? r k = some (owner, p) → ∃ x, p.slot = .data x true)
    (v : Val) :
    ∃ h', setProperty ev (.object r) k v h = .finished h' (.returned ()) := by
  have hadd := addProperty_eq hextensible hisArray hplace k v
  have hself : (Val.object r != Val.object r) = false := by simp
  change ∃ h', (Action.read (fun h => h.findProperty? r k) >>= fun found => _) h = _
  simp only [bind, Action.bind, Action.read, Run.andThen_finished, hisArray, Bool.and_false]
  cases hf : h.findProperty? r k with
  | none =>
      simp only [hself, Bool.false_eq_true, if_false]
      exact ⟨_, hadd⟩
  | some found =>
      obtain ⟨owner, ⟨slot, e, c⟩⟩ := found
      obtain ⟨x, hslot⟩ := hfound _ _ hf
      simp only at hslot
      subst hslot
      simp only [Bool.false_eq_true, if_false, Bool.not_true, hself]
      split
      · exact ⟨_, rfl⟩
      · exact ⟨_, hadd⟩

end ScriptHost.Script
