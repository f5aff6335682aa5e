import ScriptHost.Proofs.Script.Later
import ScriptHost.Script.Call
import ScriptHost.Script.Machine
import ScriptHost.Script.Standard

/-!
# Assignment in a heap that no script has touched

Assigning a property may call a setter, and a setter may be any function.  In a fresh
realm the only setters are the one for prototypes and the guard that refuses every
access, and neither of them asks the host for anything.  So as long as no script has
run, assigning to an object that is no array finishes by itself.

`Heap.Pristine` says that a heap has no other setters, and `Action.QuietAt` that code
finishes by itself in such a heap and leaves one behind.  Of the engine all that has to be
known is how it calls those two setters, which is what `Evaluator.Sets` says.
-/

namespace ScriptHost.Script

/-! ## Heaps without setters of scripts -/

/-- Whether a setter is one of those that a fresh realm has. -/
def Slot.tame (h : Heap) : Slot → Bool
  | .data _ _ => true
  | .accessor _ .undefined => true
  | .accessor _ setter =>
    match h.callable? setter with
    | some (.builtin .prototypeSetter) => true
    | some (.builtin .forbidden) => true
    | _ => false

theorem Slot.tame_of_later {h h' : Heap} (hl : h.Later h') {s : Slot} (hs : s.tame h = true) :
    s.tame h' = true := by
  unfold Slot.tame at hs ⊢
  cases s with
  | data v w => rfl
  | accessor g setter =>
      cases setter with
      | undefined => rfl
      | object r =>
          cases hc : h.callable? (.object r) with
          | none => simp [hc] at hs
          | some c => simpa only [hl.callable? hc, hc] using hs
      | _ => cases hs

/-- No setter of the heap runs code of a script or asks the host. -/
def Heap.Pristine (h : Heap) : Prop := ∀ r p, (h.object r).Holds p → p.slot.tame h = true

namespace Heap.Pristine

variable {h h' : Heap}

theorem of_objects (hall : ∀ o ∈ h.objects, ∀ e ∈ o.properties, e.2.slot.tame h = true) :
    h.Pristine := by
  intro r p hp
  by_cases hr : r < h.objects.size
  · have hget : h.object r = h.objects[r] := by
      unfold object
      rw [Array.getD_eq_getD_getElem?, Array.getElem?_eq_getElem hr, Option.getD_some]
    rcases hp with ⟨v, -, rfl⟩ | ⟨k, hk⟩
    · rfl
    · rw [hget] at hk
      exact hall _ (Array.getElem_mem hr) _ hk
  · rw [h.object_of_size_le (Nat.le_of_not_lt hr)] at hp
    exact absurd hp Object.not_holds_default

/-- The heap of an empty realm is pristine, and its global object is no array. -/
private theorem standard_facts :
    (∀ o ∈ Heap.standard.objects, ∀ e ∈ o.properties, e.2.slot.tame Heap.standard = true) ∧
      Place.global < Heap.standard.size ∧
      (Heap.standard.object Place.global).isArray = false := by
  decide +kernel

theorem standard : Heap.standard.Pristine := of_objects standard_facts.1

private theorem global_withMemory {r : ObjectRef} (limit : Option Nat)
    (hr : r < h.size ∧ (h.object r).isArray = false) :
    r < { h with memory := limit }.size ∧ ({ h with memory := limit }.object r).isArray = false :=
  hr

theorem standard_global (limit : Option Nat) :
    Place.global < { Heap.standard with memory := limit }.size ∧
      ({ Heap.standard with memory := limit }.object Place.global).isArray = false :=
  global_withMemory limit standard_facts.2

/-- A limit of the memory changes nothing about setters. -/
theorem withMemory (hp : h.Pristine) (limit : Option Nat) :
    { h with memory := limit }.Pristine := hp

theorem modify (hp : h.Pristine) (r : ObjectRef) {f : Object → Object}
    (hkind : ∀ o, (f o).kind = o.kind)
    (hholds : ∀ o p, (f o).Holds p → o.Holds p ∨ p.slot.tame h = true) :
    (h.modify r f).Pristine := by
  have hl := Heap.Later.modify h r hkind
  intro s p hs
  rw [h.object_modify] at hs
  split at hs
  · exact Slot.tame_of_later hl ((hholds _ _ hs).elim (hp s p) id)
  · exact Slot.tame_of_later hl (hp s p hs)

theorem allocate (hp : h.Pristine) (o : Object) (ho : ∀ p, o.Holds p → p.slot.tame h = true) :
    (h.allocate o).2.Pristine := by
  have hl := Heap.Later.allocate h o
  intro s p hs
  rw [h.object_allocate] at hs
  split at hs
  · exact Slot.tame_of_later hl (ho p hs)
  · exact Slot.tame_of_later hl (hp s p hs)

theorem tame_of_findProperty? (hp : h.Pristine) {r owner : ObjectRef} {k : Key} {p : Property}
    (hf : h.findProperty? r k = some (owner, p)) : p.slot.tame h = true := by
  suffices hgo : ∀ fuel r, findProperty?.go h k fuel r = some (owner, p) →
      p.slot.tame h = true from hgo _ _ hf
  intro fuel
  induction fuel with
  | zero => intro r hr; cases hr
  | succ fuel ih =>
      intro r hr
      simp only [findProperty?.go] at hr
      split at hr
      · rename_i q hq
        cases hr
        exact hp owner p (Object.holds_of_own? hq)
      · split at hr
        · exact ih _ hr
        · cases hr

end Heap.Pristine

/-! ## Code that finishes by itself -/

/-- From a heap on, code finishes without asking the host and leaves a pristine heap. -/
def Action.QuietAt {α : Type} (h : Heap) (x : Action α) : Prop :=
  ∃ h' o, x h = .finished h' o ∧ h.Later h' ∧ h'.Pristine

namespace Action

variable {α β : Type} {h : Heap}

theorem quietAt_pure (hp : h.Pristine) (a : α) : QuietAt h (pure a : Action α) :=
  ⟨h, .returned a, rfl, .refl h, hp⟩

theorem quietAt_raise (hp : h.Pristine) (v : Val) : QuietAt h (raise v : Action α) :=
  ⟨h, .thrown v, rfl, .refl h, hp⟩

theorem quietAt_change {f : Heap → Heap} (hl : h.Later (f h)) (hp : (f h).Pristine) :
    QuietAt h (change f) :=
  ⟨f h, .returned (), rfl, hl, hp⟩

theorem quietAt_update {f : Heap → α × Heap} (hl : h.Later (f h).2) (hp : (f h).2.Pristine) :
    QuietAt h (update f) :=
  ⟨(f h).2, .returned (f h).1, rfl, hl, hp⟩

section Bind

variable {x : Action α} {f : α → Action β} {h' : Heap}

/-- Code goes on with what the code before it returned. -/
theorem bind_finished {a : α} (hx : x h = .finished h' (.returned a)) :
    (x >>= f) h = f a h' := by
  change (x h).andThen _ = _
  rw [hx]
  rfl

theorem bind_thrown {v : Val} (hx : x h = .finished h' (.thrown v)) :
    (x >>= f) h = .finished h' (.thrown v) := by
  change (x h).andThen _ = _
  rw [hx]
  rfl

theorem bind_suspended (hx : x h = .finished h' .suspended) :
    (x >>= f) h = .finished h' .suspended := by
  change (x h).andThen _ = _
  rw [hx]
  rfl

/-- A frame goes on with what is thrown only. -/
theorem framed_finished (s : Stack) {o : Outcome α} (hx : x h = .finished h' o) :
    framed s x h =
      match o with
      | .thrown v => (traced s v >>= fun _ => (raise v : Action α)) h'
      | .returned a => .finished h' (.returned a)
      | .suspended => .finished h' .suspended := by
  change (x h).andThen _ = _
  simp only [hx, Run.andThen_finished]
  cases o <;> rfl

end Bind

theorem quietAt_bind {x : Action α} {f : α → Action β} (hx : QuietAt h x)
    (hf : ∀ a h', h.Later h' → h'.Pristine → QuietAt h' (f a)) : QuietAt h (x >>= f) := by
  obtain ⟨h', o, hrun, hl, hp⟩ := hx
  cases o with
  | returned a =>
      obtain ⟨h'', o', hrun', hl', hp'⟩ := hf a h' hl hp
      exact ⟨h'', o', (bind_finished hrun).trans hrun', hl.trans hl', hp'⟩
  | thrown v => exact ⟨h', _, bind_thrown hrun, hl, hp⟩
  | suspended => exact ⟨h', _, bind_suspended hrun, hl, hp⟩

/-- Reading first leaves the heap as it is. -/
theorem quietAt_read_bind {f : Heap → α} {g : α → Action β} (hg : QuietAt h (g (f h))) :
    QuietAt h (read f >>= g) := hg

end Action

/-! ## Calls of the setters of a fresh realm -/

/-- A call of one of the two setters of a fresh realm does what the setter does, unless the
engine refuses it for want of stack or memory. -/
def Evaluator.Sets (ev : Evaluator) : Prop :=
  ∀ {h : Heap} {setter : Val} {b : Builtin}, h.callable? setter = some (.builtin b) →
    b = .prototypeSetter ∨ b = .forbidden → ∀ (receiver : Val) (vs : List Val),
      (∃ r : Refusal, ev.call setter receiver vs h = r.raise h) ∨
        ∃ inside : Evaluator, ev.call setter receiver vs h =
          framed inside.stack (callBuiltin inside b receiver vs) h

/-- A call of the script side of a host function asks the host for that function, unless the
engine refuses the call for want of stack or memory. -/
def Evaluator.Asks (ev : Evaluator) : Prop :=
  ∀ {h : Heap} {f : ObjectRef} {k : NativeKey}, h.native? f = some k →
    ∀ (receiver : Val) (vs : List Val),
      (∃ r : Refusal, ev.call (.object f) receiver vs h = r.raise h) ∨
        ∃ inside : Evaluator, ev.call (.object f) receiver vs h = callNative inside k vs h

/-! ## What an assignment is made of -/

/-- A new error holds texts only. -/
theorem data_of_mem_errorProperties {message stack : Option Units} {k : Key} {p : Property}
    (hp : (k, p) ∈ errorProperties message stack) : ∃ s, p = .hidden (.string s) := by
  simp only [errorProperties, List.mem_append, Option.mem_toList, Option.map_eq_some_iff] at hp
  rcases hp with ⟨s, -, hs⟩ | ⟨s, -, hs⟩
  · exact ⟨s, (Prod.mk.inj hs).2.symm⟩
  · exact ⟨s, (Prod.mk.inj hs).2.symm⟩

section Parts

open ScriptHost.Script.Action

variable {α : Type} {h : Heap}

theorem quietAt_newError (hp : h.Pristine) (t : ErrorType) (message stack : Option Units) :
    (newError t message stack).QuietAt h := by
  refine quietAt_update (Heap.Later.allocate h
    (.make .error (some (Place.errorPrototype t)) (errorProperties message stack)))
    (hp.allocate _ fun p hheld => ?_)
  obtain ⟨k, hk⟩ := Object.holds_of_make hheld
  obtain ⟨s, hs⟩ := data_of_mem_errorProperties hk
  rw [hs]
  rfl

theorem quietAt_raiseError (hp : h.Pristine) (t : ErrorType) (message : Units) :
    (raiseError t message : Action α).QuietAt h :=
  quietAt_bind (quietAt_newError hp t _ _) fun e _ _ hp' => quietAt_raise hp' e

theorem quietAt_raiseAboutKey (hp : h.Pristine) (t : ErrorType) (front : String) (k : Key)
    (back : String) : (raiseAboutKey t front k back : Action α).QuietAt h :=
  quietAt_read_bind (quietAt_raiseError hp t _)

theorem quietAt_reserve (hp : h.Pristine) (ev : Evaluator) (bytes : Nat) :
    (reserve ev bytes).QuietAt h := by
  refine quietAt_read_bind ?_
  split
  · exact quietAt_pure hp ()
  · exact quietAt_raiseError hp _ _

theorem quietAt_reserveProperty (hp : h.Pristine) (ev : Evaluator) (r : ObjectRef) :
    (reserveProperty ev r).QuietAt h := by
  refine quietAt_read_bind ?_
  split
  · exact quietAt_pure hp ()
  · exact quietAt_reserve hp ev _

/-- Giving an error its stack trace puts a property there. -/
theorem quietAt_traced (hp : h.Pristine) (s : Stack) (v : Val) : (traced s v).QuietAt h := by
  unfold traced
  split
  · rename_i r
    have hmodify := h.setObject_eq_modify r
      fun o => o.put (key "stack") (Property.hidden (.string s.trace))
    by_cases hbare : ((h.object r).isError && (h.object r).extensible &&
        ((h.object r).own? (key "stack")).isNone) = true
    · refine quietAt_change ?_ ?_
      · simp only [hbare, if_true]
        rw [hmodify]
        exact .modify h r fun o => (o.shape_put _ _).kind
      · simp only [hbare, if_true]
        rw [hmodify]
        refine hp.modify r (fun o => (o.shape_put _ _).kind) fun o p hheld => ?_
        exact (Object.holds_of_put hheld).imp id fun hstack => by rw [hstack]; rfl
    · refine quietAt_change ?_ ?_
      · simp only [if_neg hbare]
        exact .refl h
      · simp only [if_neg hbare]
        exact hp
  · exact quietAt_pure hp ()

theorem quietAt_framed {x : Action α} (s : Stack) (hx : x.QuietAt h) :
    (framed s x).QuietAt h := by
  obtain ⟨h', o, hrun, hl, hp⟩ := hx
  have hframed := framed_finished s hrun
  cases o with
  | thrown v =>
      have hraise : (traced s v >>= fun _ => (raise v : Action α)).QuietAt h' :=
        quietAt_bind (quietAt_traced hp s v) fun _ _ _ hp' => quietAt_raise hp' v
      obtain ⟨h'', o, hrun', hl', hp'⟩ := hraise
      exact ⟨h'', o, hframed.trans hrun', hl.trans hl', hp'⟩
  | returned a => exact ⟨h', _, hframed, hl, hp⟩
  | suspended => exact ⟨h', _, hframed, hl, hp⟩

theorem quietAt_refusal (hp : h.Pristine) (r : Refusal) : r.raise.QuietAt h := by
  cases r with
  | error t message stack =>
      exact quietAt_bind (quietAt_newError hp _ _ _) fun e _ _ hp' => quietAt_raise hp' e
  | bare => exact quietAt_raise hp _

theorem quietAt_setPrototype (hp : h.Pristine) (r : ObjectRef) (p : Option ObjectRef) :
    (setPrototype r p).QuietAt h := by
  refine quietAt_read_bind (quietAt_read_bind ?_)
  split
  · exact quietAt_pure hp ()
  · split
    · exact quietAt_raiseError hp _ _
    · split
      · exact quietAt_raiseError hp _ _
      · split
        · exact quietAt_raiseError hp _ _
        · exact quietAt_change (.modify h r fun _ => rfl) (hp.modify r (fun _ => rfl)
            fun _ _ hheld => .inl hheld)

theorem quietAt_assignPrototype (hp : h.Pristine) (target v : Val) :
    (assignPrototype target v).QuietAt h := by
  unfold assignPrototype
  split
  · exact quietAt_raiseError hp _ _
  · exact quietAt_raiseError hp _ _
  · exact quietAt_bind (quietAt_setPrototype hp _ _) fun _ _ _ hp' => quietAt_pure hp' _
  · exact quietAt_pure hp _

/-- The two setters of a fresh realm change a prototype or refuse. -/
theorem quietAt_call (hp : h.Pristine) {ev : Evaluator} (hev : ev.Sets) {setter : Val}
    {b : Builtin} (hb : h.callable? setter = some (.builtin b))
    (htame : b = .prototypeSetter ∨ b = .forbidden) (receiver v : Val) :
    (ev.call setter receiver [v]).QuietAt h := by
  rcases hev hb htame receiver [v] with ⟨r, hr⟩ | ⟨inside, hinside⟩
  · obtain ⟨h', o, hrun, hquiet⟩ := quietAt_refusal hp r
    exact ⟨h', o, hr.trans hrun, hquiet⟩
  · have hcall : (callBuiltin inside b receiver [v]).QuietAt h := by
      rcases htame with rfl | rfl
      · exact quietAt_assignPrototype hp receiver v
      · exact quietAt_raiseError hp _ _
    obtain ⟨h', o, hrun, hquiet⟩ := quietAt_framed inside.stack hcall
    exact ⟨h', o, hinside.trans hrun, hquiet⟩

theorem quietAt_callSetter (hp : h.Pristine) {ev : Evaluator} (hev : ev.Sets)
    {getter setter : Val} (htame : (Slot.accessor getter setter).tame h = true)
    (receiver v : Val) : (callSetter ev setter receiver v).QuietAt h := by
  unfold Slot.tame at htame
  unfold callSetter
  split
  · exact quietAt_raiseError hp _ _
  · rename_i hdefined
    split at htame
    · rename_i hslot
      cases hslot
    · rename_i hslot
      cases hslot
      exact absurd rfl hdefined
    · rename_i hslot
      cases hslot
      refine quietAt_bind ?_ fun _ _ _ hp' => quietAt_pure hp' ()
      split at htame
      · rename_i hb
        exact quietAt_call hp hev hb (.inl rfl) receiver v
      · rename_i hb
        exact quietAt_call hp hev hb (.inr rfl) receiver v
      · cases htame

theorem quietAt_addProperty (hp : h.Pristine) (ev : Evaluator) (r : ObjectRef) (k : Key)
    (v : Val) : (addProperty ev r k v).QuietAt h := by
  refine quietAt_read_bind ?_
  split
  · exact quietAt_raiseError hp _ _
  · refine quietAt_bind (quietAt_reserveProperty hp ev r) fun _ h' _ hp' => ?_
    refine quietAt_change (.modify h' r fun o => (o.shape_define k _).kind)
      (hp'.modify r (fun o => (o.shape_define k _).kind) fun o p hheld => ?_)
    rcases Object.holds_of_define hheld with hheld | rfl | ⟨n, w, rfl⟩
    · exact .inl hheld
    · exact .inr rfl
    · exact .inr rfl

end Parts

/-- Assigning to an object that is no array finishes by itself. -/
theorem quietAt_setProperty {h : Heap} (hp : h.Pristine) {ev : Evaluator} (hev : ev.Sets)
    {r : ObjectRef} (hr : (h.object r).isArray = false) (k : Key) (v : Val) :
    (setProperty ev (.object r) k v).QuietAt h := by
  change (Action.read (fun h => h.findProperty? r k) >>= fun found => _).QuietAt h
  refine Action.quietAt_read_bind (Action.quietAt_read_bind ?_)
  simp only [hr, Bool.and_false]
  split
  · rename_i owner _ writable e c hfound
    split
    · exact absurd ‹false = true› Bool.false_ne_true
    · split
      · exact quietAt_raiseAboutKey hp _ _ _ _
      · split
        · exact quietAt_raiseError hp _ _
        · split
          · refine Action.quietAt_change (.modify h r fun o => (o.shape_put k _).kind)
              (hp.modify r (fun o => (o.shape_put k _).kind) fun o p hheld => ?_)
            rcases Object.holds_of_put hheld with hheld | rfl
            · exact .inl hheld
            · exact .inr rfl
          · exact quietAt_addProperty hp ev r k v
  · rename_i getter setter _ _ hfound
    exact quietAt_callSetter hp hev (hp.tame_of_findProperty? hfound) _ v
  · split
    · exact quietAt_raiseError hp _ _
    · exact quietAt_addProperty hp ev r k v

end ScriptHost.Script
