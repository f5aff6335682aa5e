import ScriptHost.Proofs.Script.HostError

/-!
# Code that leaves everything as it is

Some code makes objects and scopes of its own and changes nothing else.  A heap that it leaves
extends the one that it was started in, and what is found along the prototypes of an older
object is found there still.

Such code can fail for one reason only: the engine has no stack or no memory for it.  `Yields`
says of code that it ends by itself, extends a heap, and either returns something that is
described or throws the error of an engine that has run out.  The heap that is extended is
named apart from the one that the code starts in, because the code may change what was made
between the two.
-/

namespace ScriptHost.Script

/-! ## Heaps that are only added to -/

/-- Everything in a heap is left as it is, and perhaps there are more objects and scopes. -/
structure Heap.Extended (h h' : Heap) : Prop where
  size_le : h.size ≤ h'.size
  object_eq (o : ObjectRef) : o < h.size → h'.object o = h.object o
  scopes_le : h.scopes.size ≤ h'.scopes.size
  scope_eq (s : ScopeRef) : s < h.scopes.size → h'.scope s = h.scope s
  symbols_eq : h'.symbols = h.symbols
  memory_eq : h'.memory = h.memory

namespace Heap

variable {h h' h'' : Heap}

theorem scope_allocateScope (h : Heap) (s : Scope) (r : ScopeRef) :
    (h.allocateScope s).2.scope r = if r = h.scopes.size then s else h.scope r := by
  unfold scope allocateScope
  simp only [Array.getD_eq_getD_getElem?, Array.getElem?_push]
  split
  · rfl
  · rfl

theorem scope_modifyScope (h : Heap) (r s : ScopeRef) (f : Scope → Scope) :
    (h.modifyScope r f).scope s =
      if r = s ∧ s < h.scopes.size then f (h.scope s) else h.scope s := by
  unfold scope modifyScope
  simp only [Array.getD_eq_getD_getElem?, Array.getElem?_modify]
  by_cases hs : s < h.scopes.size <;> by_cases hrs : r = s <;> simp [hs, hrs]

namespace Extended

theorem refl (h : Heap) : h.Extended h :=
  ⟨Nat.le_refl _, fun _ _ => rfl, Nat.le_refl _, fun _ _ => rfl, rfl, rfl⟩

theorem trans (h₁ : h.Extended h') (h₂ : h'.Extended h'') : h.Extended h'' where
  size_le := Nat.le_trans h₁.size_le h₂.size_le
  object_eq o ho :=
    (h₂.object_eq o (Nat.lt_of_lt_of_le ho h₁.size_le)).trans (h₁.object_eq o ho)
  scopes_le := Nat.le_trans h₁.scopes_le h₂.scopes_le
  scope_eq s hs :=
    (h₂.scope_eq s (Nat.lt_of_lt_of_le hs h₁.scopes_le)).trans (h₁.scope_eq s hs)
  symbols_eq := h₂.symbols_eq.trans h₁.symbols_eq
  memory_eq := h₂.memory_eq.trans h₁.memory_eq

theorem later (hx : h.Extended h') : h.Later h' :=
  ⟨hx.size_le, fun r hr => by rw [hx.object_eq r hr]⟩

theorem allocate (hx : h.Extended h') (o : Object) : h.Extended (h'.allocate o).2 where
  size_le := Nat.le_trans hx.size_le (Nat.le_of_lt (h'.lt_size_allocate o))
  object_eq r hr := by
    rw [h'.object_allocate_of_lt o (Nat.lt_of_lt_of_le hr hx.size_le)]
    exact hx.object_eq r hr
  scopes_le := hx.scopes_le
  scope_eq := hx.scope_eq
  symbols_eq := hx.symbols_eq
  memory_eq := hx.memory_eq

/-- What is not among the objects that were there may change. -/
theorem modify (hx : h.Extended h') {r : ObjectRef} (hr : h.size ≤ r) (f : Object → Object) :
    h.Extended (h'.modify r f) where
  size_le := by
    rw [h'.size_modify]
    exact hx.size_le
  object_eq s hs := by
    rw [h'.object_modify, if_neg fun hsame : r = s ∧ _ => Nat.not_le_of_lt (hsame.1 ▸ hs) hr]
    exact hx.object_eq s hs
  scopes_le := hx.scopes_le
  scope_eq := hx.scope_eq
  symbols_eq := hx.symbols_eq
  memory_eq := hx.memory_eq

theorem allocateScope (hx : h.Extended h') (s : Scope) : h.Extended (h'.allocateScope s).2 where
  size_le := hx.size_le
  object_eq := hx.object_eq
  scopes_le := by
    refine Nat.le_trans hx.scopes_le ?_
    rw [Heap.allocateScope, Array.size_push]
    exact Nat.le_succ _
  scope_eq r hr := by
    rw [scope_allocateScope, if_neg (Nat.ne_of_lt (Nat.lt_of_lt_of_le hr hx.scopes_le))]
    exact hx.scope_eq r hr
  symbols_eq := hx.symbols_eq
  memory_eq := hx.memory_eq

theorem modifyScope (hx : h.Extended h') {r : ScopeRef} (hr : h.scopes.size ≤ r)
    (f : Scope → Scope) : h.Extended (h'.modifyScope r f) where
  size_le := hx.size_le
  object_eq := hx.object_eq
  scopes_le := by
    rw [Heap.modifyScope, Array.size_modify]
    exact hx.scopes_le
  scope_eq s hs := by
    rw [scope_modifyScope, if_neg fun hsame : r = s ∧ _ => Nat.not_le_of_lt (hsame.1 ▸ hs) hr]
    exact hx.scope_eq s hs
  symbols_eq := hx.symbols_eq
  memory_eq := hx.memory_eq

/-! ## Looking for a property -/

/-- A search that finds something stays among the objects that are there.  There may be more
fuel for it in the later heap. -/
private theorem go_eq_some (hx : h.Extended h') {k : Key} {e : ObjectRef × Property}
    {fuel fuel' : Nat} (hle : fuel ≤ fuel') {r : ObjectRef}
    (hfound : Heap.findProperty?.go h k fuel r = some e) :
    Heap.findProperty?.go h' k fuel' r = some e := by
  induction fuel generalizing fuel' r with
  | zero => cases hfound
  | succ fuel ih =>
      obtain ⟨fuel', rfl⟩ : ∃ n, fuel' = n + 1 := ⟨fuel' - 1, by omega⟩
      -- From an object that is not there nothing is found.
      have hr : r < h.size := by
        by_contra hr
        have hdefault := h.object_of_size_le (Nat.le_of_not_lt hr)
        have hown : (default : Object).own? k = none := by
          cases hp : (default : Object).own? k with
          | none => rfl
          | some p => exact absurd (Object.holds_of_own? hp) Object.not_holds_default
        simp only [Heap.findProperty?.go, hdefault, hown] at hfound
        cases hfound
      simp only [Heap.findProperty?.go] at hfound ⊢
      rw [hx.object_eq r hr]
      cases hown : (h.object r).own? k with
      | some p =>
          rw [hown] at hfound
          exact hfound
      | none =>
          rw [hown] at hfound
          cases hprototype : (h.object r).prototype with
          | none =>
              rw [hprototype] at hfound
              cases hfound
          | some q =>
              rw [hprototype] at hfound
              exact ih (by omega) hfound

theorem findProperty? (hx : h.Extended h') {r : ObjectRef} {k : Key} {e : ObjectRef × Property}
    (hfound : h.findProperty? r k = some e) : h'.findProperty? r k = some e :=
  go_eq_some hx hx.size_le hfound

/-- A new object finds what its prototype finds, unless it has that itself. -/
theorem findProperty?_inherited (hx : h.Extended h') {r q : ObjectRef} {k : Key}
    {e : ObjectRef × Property} (hr : h.size ≤ r) (hr' : r < h'.size)
    (hprototype : (h'.object r).prototype = some q) (hown : (h'.object r).own? k = none)
    (hfound : h.findProperty? q k = some e) : h'.findProperty? r k = some e := by
  obtain ⟨fuel, hfuel⟩ := Nat.exists_eq_succ_of_ne_zero (Nat.ne_of_gt (Nat.zero_lt_of_lt hr'))
  have hsize : h'.size = fuel + 1 := hfuel
  have hle : h.size ≤ fuel := Nat.le_trans hr (Nat.le_of_lt_succ (Nat.lt_of_lt_of_eq hr' hsize))
  have hrest : Heap.findProperty?.go h' k fuel q = some e := go_eq_some hx hle hfound
  unfold Heap.findProperty?
  rw [show h'.objects.size = fuel + 1 from hfuel]
  simp only [Heap.findProperty?.go, hown, hprototype, hrest]

end Extended

/-! ## What is found -/

/-- The function that every realm has which a value is. -/
def builtin? (h : Heap) (v : Val) : Option Builtin :=
  match h.callable? v with
  | some (.builtin b) => some b
  | _ => none

theorem callable?_of_builtin? {v : Val} {b : Builtin} (hb : h.builtin? v = some b) :
    h.callable? v = some (.builtin b) := by
  unfold builtin? at hb
  split at hb
  · rename_i hc
    rw [hc, Option.some.inj hb]
  · cases hb

/-- What an object has under a key, if that is a function that every realm has. -/
def method? (h : Heap) (r : ObjectRef) (k : Key) : Option Builtin :=
  match h.findProperty? r k with
  | some (_, ⟨.data f _, _, _⟩) => h.builtin? f
  | _ => none

/-- What answers for a key of an object, if that is a function that every realm has. -/
def getter? (h : Heap) (r : ObjectRef) (k : Key) : Option Builtin :=
  match h.findProperty? r k with
  | some (_, ⟨.accessor f _, _, _⟩) => h.builtin? f
  | _ => none

theorem findProperty?_of_method? {r : ObjectRef} {k : Key} {b : Builtin}
    (hm : h.method? r k = some b) :
    ∃ owner f writable enumerable configurable,
      h.findProperty? r k = some (owner, ⟨.data f writable, enumerable, configurable⟩) ∧
        h.callable? f = some (.builtin b) := by
  unfold method? at hm
  split at hm
  · exact ⟨_, _, _, _, _, ‹_›, callable?_of_builtin? hm⟩
  · cases hm

theorem findProperty?_of_getter? {r : ObjectRef} {k : Key} {b : Builtin}
    (hg : h.getter? r k = some b) :
    ∃ owner f setter enumerable configurable,
      h.findProperty? r k = some (owner, ⟨.accessor f setter, enumerable, configurable⟩) ∧
        h.callable? f = some (.builtin b) := by
  unfold getter? at hg
  split at hg
  · exact ⟨_, _, _, _, _, ‹_›, callable?_of_builtin? hg⟩
  · cases hg

theorem builtin?_eq {v : Val} {b : Builtin} (hc : h.callable? v = some (.builtin b)) :
    h.builtin? v = some b := by
  rw [builtin?, hc]

theorem Extended.method? (hx : h.Extended h') {r : ObjectRef} {k : Key} {b : Builtin}
    (hm : h.method? r k = some b) : h'.method? r k = some b := by
  obtain ⟨owner, f, writable, enumerable, configurable, hfound, hb⟩ := findProperty?_of_method? hm
  rw [Heap.method?, hx.findProperty? hfound]
  exact builtin?_eq (hx.later.callable? hb)

theorem Extended.getter? (hx : h.Extended h') {r : ObjectRef} {k : Key} {b : Builtin}
    (hg : h.getter? r k = some b) : h'.getter? r k = some b := by
  obtain ⟨owner, f, setter, enumerable, configurable, hfound, hb⟩ := findProperty?_of_getter? hg
  rw [Heap.getter?, hx.findProperty? hfound]
  exact builtin?_eq (hx.later.callable? hb)

/-! ## Running out -/

/-- What an engine throws that has run out of stack or of memory. -/
def exhaustions : List (ErrorType × String) :=
  [(.range, "Maximum call stack size exceeded"), (.internal, "out of memory")]

/-- An object is the error that an engine throws which has run out of stack or of memory. -/
structure TellsExhausted (h : Heap) (e : ObjectRef) : Prop where
  kind : (h.object e).kind = .error
  message : ∃ t message, (t, message) ∈ Heap.exhaustions ∧
    (h.object e).prototype = some (Place.errorPrototype t) ∧
    (h.object e).own? (key "message") = some (.hidden (.string (text message)))

end Heap

variable {α β : Type} {h₀ h h' : Heap}

/-- From a heap on, code ends by itself and leaves all of another heap as it is.  It returns
something, or throws a new error because the engine has run out. -/
inductive Action.Yields (h₀ h : Heap) (P : Heap → α → Prop) (x : Action α) : Prop
  | returned {h' : Heap} {a : α} (hrun : x h = .finished h' (.returned a)) (hx : h₀.Extended h')
      (ha : P h' a)
  | exhausted {h' : Heap} {e : ObjectRef} (hrun : x h = .finished h' (.thrown (.object e)))
      (hx : h₀.Extended h') (hnew : h₀.size ≤ e) (htells : h'.TellsExhausted e)

/-- From a heap on, code ends because the engine has run out of stack or of memory. -/
def Action.Exhausts (x : Action α) (h : Heap) : Prop :=
  ∃ h' e, x h = .finished h' (.thrown (.object e)) ∧ h'.TellsExhausted e

namespace Action.Yields

variable {P : Heap → α → Prop} {Q : Heap → β → Prop} {x : Action α}

protected theorem pure (hx : h₀.Extended h) {a : α} (ha : P h a) :
    Yields h₀ h P (Pure.pure a : Action α) :=
  .returned rfl hx ha

theorem imp {P' : Heap → α → Prop} (hx : Yields h₀ h P x) (hP : ∀ h' a, P h' a → P' h' a) :
    Yields h₀ h P' x := by
  cases hx with
  | returned hrun hx ha => exact .returned hrun hx (hP _ _ ha)
  | exhausted hrun hx hnew htells => exact .exhausted hrun hx hnew htells

theorem bind {f : α → Action β} (hx : Yields h₀ h P x)
    (hf : ∀ h' a, h₀.Extended h' → P h' a → Yields h₀ h' Q (f a)) : Yields h₀ h Q (x >>= f) := by
  cases hx with
  | @returned h' a hrun hx ha =>
      have hbind : (x >>= f) h = f a h' := bind_finished hrun
      cases hf h' a hx ha with
      | returned hrun' hx' hb => exact .returned (hbind.trans hrun') hx' hb
      | exhausted hrun' hx' hnew htells => exact .exhausted (hbind.trans hrun') hx' hnew htells
  | exhausted hrun hx hnew htells => exact .exhausted (bind_thrown hrun) hx hnew htells

/-- Code that returns goes first. -/
theorem after {f : α → Action β} {a : α} (hrun : x h = .finished h' (.returned a))
    (hf : Yields h₀ h' Q (f a)) : Yields h₀ h Q (x >>= f) := by
  have hbind : (x >>= f) h = f a h' := bind_finished hrun
  cases hf with
  | returned hrun' hx' hb => exact .returned (hbind.trans hrun') hx' hb
  | exhausted hrun' hx' hnew htells => exact .exhausted (hbind.trans hrun') hx' hnew htells

/-- What is read of the heap goes on. -/
theorem read {f : Heap → α} {next : α → Action β} {a : α} (hf : f h = a)
    (hnext : Yields h₀ h Q (next a)) : Yields h₀ h Q (Action.read f >>= next) := by
  subst hf
  exact after rfl hnext

theorem congr {y : Action α} (heq : y h = x h) (hx : Yields h₀ h P x) : Yields h₀ h P y := by
  cases hx with
  | returned hrun hx ha => exact .returned (heq.trans hrun) hx ha
  | exhausted hrun hx hnew htells => exact .exhausted (heq.trans hrun) hx hnew htells

/-- Code runs on every item, each time in a heap that is as it should be. -/
theorem each {γ : Type} (I : Heap → Prop) (f : γ → Action β) (g : γ → β) (items : List γ)
    (hf : ∀ h' c, c ∈ items → h₀.Extended h' → I h' →
      Yields h₀ h' (fun h'' b => I h'' ∧ b = g c) (f c)) (hx : h₀.Extended h) (hI : I h) :
    Yields h₀ h (fun h' bs => I h' ∧ bs = items.map g) (Action.each f items) := by
  have honto (done : List β) : ∀ {h : Heap}, h₀.Extended h → I h →
      Yields h₀ h (fun h' bs => I h' ∧ bs = done.reverse ++ items.map g)
        (Action.eachOnto f done items) := by
    induction items generalizing done with
    | nil =>
        intro h hx hI
        refine .returned rfl hx ⟨hI, ?_⟩
        rw [List.map_nil, List.append_nil]
    | cons c rest ih =>
        intro h hx hI
        refine (hf h c List.mem_cons_self hx hI).bind fun h' b hx' hb => ?_
        have hrest :=
          ih (fun h' c' hc' => hf h' c' (List.mem_cons_of_mem c hc')) (b :: done) hx' hb.1
        refine hrest.imp fun h'' bs hbs => ⟨hbs.1, ?_⟩
        rw [hbs.2, hb.2, List.reverse_cons, List.append_assoc, List.map_cons]
        rfl
  exact honto [] hx hI

end Action.Yields

/-! ## The errors of an engine that has run out -/

/-- A new error has the message that it is made with. -/
theorem own?_message_errorProperties (t : ErrorType) (message : String) (stack : Option Units) :
    (Object.make .error (some (Place.errorPrototype t))
      (errorProperties (some (text message)) stack)).own? (key "message") =
        some (.hidden (.string (text message))) := by
  have hindex : (key "message").index? = none := by decide +kernel
  have hne : key "stack" ≠ key "message" := key_ne (by decide)
  cases stack with
  | none => simp [Object.own?, Object.element?, Object.make, errorProperties, hindex, findKey?]
  | some s =>
      simp [Object.own?, Object.element?, Object.make, errorProperties, hindex, findKey?, hne]

theorem tellsExhausted_allocate (h : Heap) {t : ErrorType} {message : String}
    (hmem : (t, message) ∈ Heap.exhaustions) (stack : Option Units) :
    (h.allocate (.make .error (some (Place.errorPrototype t))
      (errorProperties (some (text message)) stack))).2.TellsExhausted h.size := by
  refine ⟨?_, t, message, hmem, ?_, ?_⟩
  · rw [h.object_allocate_self]
    rfl
  · rw [h.object_allocate_self]
    rfl
  · rw [h.object_allocate_self]
    exact own?_message_errorProperties t message _

/-- The error of a source that cannot be read for want of stack or memory. -/
theorem refusal_yields {P : Heap → Val → Prop} {t : ErrorType} {message : String}
    (hmem : (t, message) ∈ Heap.exhaustions) (stack : Option String) (hx : h₀.Extended h) :
    Action.Yields h₀ h P (Refusal.error t message stack).raise :=
  .exhausted rfl (hx.allocate _) hx.size_le (tellsExhausted_allocate h hmem _)

/-- An error of the language that tells that the engine has run out. -/
private theorem raiseError_yields {P : Heap → α → Prop} {t : ErrorType} {message : String}
    (hmem : (t, message) ∈ Heap.exhaustions) (hx : h₀.Extended h) :
    Action.Yields h₀ h P (raiseError t (text message) : Action α) := by
  have htake : (text message).take messageLimit = text message := by
    refine List.take_of_length_le ?_
    simp only [Heap.exhaustions, List.mem_cons, Prod.mk.injEq, List.not_mem_nil, or_false] at hmem
    rcases hmem with ⟨-, rfl⟩ | ⟨-, rfl⟩ <;> decide
  unfold raiseError
  rw [htake]
  exact .exhausted rfl (hx.allocate _) hx.size_le (tellsExhausted_allocate h hmem none)

theorem raiseTooDeep_yields {P : Heap → α → Prop} (hx : h₀.Extended h) :
    Action.Yields h₀ h P (raiseTooDeep : Action α) :=
  raiseError_yields List.mem_cons_self hx

theorem reserve_yields (ev : Evaluator) (bytes : Nat) (hx : h₀.Extended h) :
    Action.Yields h₀ h (fun h' _ => h' = h) (reserve ev bytes) := by
  refine .after rfl ?_
  dsimp only
  split
  · exact .pure hx rfl
  · exact raiseError_yields (List.mem_cons_of_mem _ List.mem_cons_self) hx

/-- An error that gets a stack trace tells what it told. -/
theorem Heap.TellsExhausted.traced {e : ObjectRef} {p : Property} (ht : h.TellsExhausted e) :
    (h.modify e fun o => o.put (key "stack") p).TellsExhausted e := by
  obtain ⟨hkind, t, message, hmem, hprototype, hmessage⟩ := ht
  have hsize := lt_size_of_own? hmessage
  have hobject : (h.modify e fun o => o.put (key "stack") p).object e =
      (h.object e).put (key "stack") p := by
    rw [h.object_modify, if_pos ⟨rfl, hsize⟩]
  have hshape := (h.object e).shape_put (key "stack") p
  refine ⟨?_, t, message, hmem, ?_, ?_⟩
  · rw [hobject, hshape.kind, hkind]
  · rw [hobject, hshape.prototype, hprototype]
  · rw [hobject, Object.own?_put _ (by decide +kernel), if_neg (key_ne (by decide)), hmessage]

/-- Only the stack trace of an error changes that leaves a frame. -/
theorem framed_yields {P : Heap → α → Prop} {x : Action α} (s : Stack)
    (hx : Action.Yields h₀ h P x) : Action.Yields h₀ h P (framed s x) := by
  cases hx with
  | returned hrun hx ha => exact .returned (Action.framed_finished s hrun) hx ha
  | @exhausted h' e hrun hx hnew htells =>
      have hframed := Action.framed_finished s hrun
      have hmodify := h'.setObject_eq_modify e
        fun o => o.put (key "stack") (Property.hidden (.string s.trace))
      by_cases hbare : ((h'.object e).isError && (h'.object e).extensible &&
          ((h'.object e).own? (key "stack")).isNone) = true
      · have htraced : traced s (.object e) h' = .finished (h'.modify e
            fun o => o.put (key "stack") (Property.hidden (.string s.trace))) (.returned ()) := by
          rw [← hmodify]
          simp only [traced, Action.change, hbare, if_true]
        exact .exhausted (hframed.trans ((Action.bind_finished htraced).trans rfl))
          (hx.modify hnew _) hnew htells.traced
      · have htraced : traced s (.object e) h' = .finished h' (.returned ()) := by
          simp only [traced, Action.change, if_neg hbare]
        exact .exhausted (hframed.trans ((Action.bind_finished htraced).trans rfl)) hx hnew htells

end ScriptHost.Script
