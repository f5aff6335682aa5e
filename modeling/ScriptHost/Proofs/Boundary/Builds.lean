import ScriptHost.Proofs.Boundary.Realised
import ScriptHost.Proofs.Script.Ground

/-!
# Realising a namespace

On ground where assignments are calm, host values go in without a host call, and whatever
goes in is realised: what a conversion returns is the value, and the object that a namespace
was exported onto shows it.  Nothing that was there before changes but that object, and it
changes under the exported names only.  On sure ground only the engine stands against it,
which may have no memory for something that has to be made: a string, an object, the function
of a callback, or a row of elements that grows.

`Builds` is what is said of one conversion, for all the ways in which host calls could be
answered at once.  A conversion goes on after another with `sequel`, and the lemma about that
carries everything through the three functions that call each other.
-/

namespace ScriptHost

open Script (Evaluator Ground Heap Object Property Val key text)

variable {φ σ α β : Type}

/-! ## What a conversion asks for -/

mutual
/-- The names under which a value exports something, depth first. -/
def Value.exportNames : Value φ → List String
  | .object _ exports => exports.exportNames
  | .null => []
  | .undefined => []
  | .number _ _ => []
  | .string _ _ => []
  | .function _ _ => []

/-- The names in a namespace, with those of its values. -/
def Namespace.exportNames : Namespace φ → List String
  | .empty => []
  | .entry name item rest => name :: (item.exportNames ++ rest.exportNames)

/-- The names in an export; a callback has none of its own. -/
def Export.exportNames : Export φ → List String
  | .value v => v.exportNames
  | .callback _ => []
  | .nested exports => exports.exportNames
end

mutual
/-- The most that the engine is asked for at once when a value goes in, in bytes. -/
def Value.largest : Value φ → Nat
  | .object _ exports => max Crossing.objectBytes (exports.largest 0)
  | .string _ s => Crossing.stringBytes s
  | .null => 0
  | .undefined => 0
  | .number _ _ => 0
  | .function _ _ => 0

/-- The most for the exports of a namespace on an object, if that has a row of at most so many
elements. -/
def Namespace.largest : Namespace φ → Nat → Nat
  | .empty, _ => 0
  | .entry name item rest, row =>
    max (item.largest name) (max (Script.elementBytes * (row + 1)) (rest.largest (row + 1)))

/-- The most for an export under a name. -/
def Export.largest : Export φ → String → Nat
  | .value v, _ => v.largest
  | .callback _, name => Crossing.objectBytes + Crossing.stringBytes name
  | .nested exports, _ => max Crossing.objectBytes (exports.largest 0)
end

/-- An engine has no memory for something of at most so many bytes, in this heap or before it
made the error that says so. -/
def Script.Evaluator.Refuses (ev : Evaluator) (most : Nat) (h : Heap) : Prop :=
  ∃ bytes ≤ most, ∃ before, ev.grants before bytes = false ∧
    (h = before ∨ ∃ error, h = (before.allocate error).2)

theorem Script.Evaluator.Refuses.mono {ev : Evaluator} {m n : Nat} {h : Heap}
    (href : ev.Refuses m h) (hle : m ≤ n) : ev.Refuses n h :=
  href.imp fun _ hbytes => ⟨hbytes.1.trans hle, hbytes.2⟩

/-! ## Conversions in sequence -/

/-- Goes on after a conversion that has succeeded. -/
def sequel (a : World φ σ × Except Failure α)
    (next : World φ σ → α → World φ σ × Except Failure β) : World φ σ × Except Failure β :=
  match a with
  | (w, .error e) => (w, .error e)
  | (w, .ok x) => next w x

section Equations

variable [Machine]

theorem extract_object (c : Crossing φ σ) (id : ValueId) (exports : Namespace φ)
    (w : World φ σ) :
    (Value.object id exports).extract c w =
      sequel (c.allocatePlain w) fun w' target =>
        sequel (exports.install c target w') fun w'' _ => (w'', .ok (.object target)) := by
  simp only [Value.extract, sequel]
  generalize c.allocatePlain w = a
  obtain ⟨w', e | target⟩ := a
  · rfl
  · dsimp only
    generalize exports.install c target w' = b
    obtain ⟨w'', e | u⟩ := b <;> rfl

/-- A string changes nothing on its way in. -/
theorem world_extract_string (c : Crossing φ σ) (id : ValueId) (s : String) (w : World φ σ) :
    ((Value.string id s).extract c w).1 = w := by
  unfold Value.extract
  split <;> rfl

/-- A new plain object is the next object of the heap. -/
theorem heap_allocatePlain {d : Dispatcher φ σ} {r : RealmRef} {stack : Script.Stack}
    {w : World φ σ} {o : ObjectRef} (hr : r < w.realms.size)
    (hmade : (Crossing.allocatePlain ⟨d, r, r, stack⟩ w).2 = .ok o) :
    (Crossing.allocatePlain ⟨d, r, r, stack⟩ w).1.heap r =
        ((w.heap r).allocate (.ofKind .plain (some Script.Place.objectPrototype))).2 ∧
      o = (w.heap r).size :=
  heap_allocate hr hmade

theorem realise_callback (c : Crossing φ σ) (name : String) (f : φ) (w : World φ σ) :
    (Export.callback f).realise c name w =
      sequel (c.makeNative name f w) fun w' o => (w', .ok (.object o)) := by
  simp only [Export.realise, sequel]
  generalize c.makeNative name f w = a
  obtain ⟨w', e | o⟩ := a <;> rfl

theorem realise_nested (c : Crossing φ σ) (name : String) (id : ValueId) (exports : Namespace φ)
    (w : World φ σ) :
    (Export.nested exports).realise c name w = (Value.object id exports).extract c w := by
  simp only [Export.realise, Value.extract]

theorem install_entry (c : Crossing φ σ) (name : String) (item : Export φ) (rest : Namespace φ)
    (target : ObjectRef) (w : World φ σ) :
    (Namespace.entry name item rest).install c target w =
      sequel (item.realise c name w) fun w' v =>
        sequel (c.assign target name v w') fun w'' _ => rest.install c target w'' := by
  simp only [Namespace.install, sequel]
  generalize item.realise c name w = a
  obtain ⟨w', e | v⟩ := a
  · rfl
  · dsimp only
    generalize c.assign target name v w' = b
    obtain ⟨w'', e | u⟩ := b <;> rfl

end Equations

/-! ## What a conversion leaves alone -/

/-- A realm is there, and its heap is ground that exports can be assigned in. -/
structure Site (G : Ground) (r : RealmRef) (w : World φ σ) : Prop where
  made : r < w.realms.size
  few : w.realms.size < 2 ^ 32
  numbered : w.Numbered
  good : G.Good (w.heap r)

/-- A conversion leaves ground as it is, and every object but those of a set. -/
structure Lays (G : Ground) (r : RealmRef) (S : Set ObjectRef) (w w' : World φ σ) : Prop where
  grows : Grows w w'
  size_eq : w'.realms.size = w.realms.size
  later : (w.heap r).Later (w'.heap r)
  memory_eq : (w'.heap r).memory = (w.heap r).memory
  same (o : ObjectRef) : o < (w.heap r).size → o ∉ S → (w'.heap r).object o = (w.heap r).object o
  good : G.Good (w.heap r) → G.Good (w'.heap r)
  takes (o : ObjectRef) (name : String) : G.Good (w.heap r) →
    G.Takes (w.heap r) o name → G.Takes (w'.heap r) o name

variable {G : Ground} {r : RealmRef} {S T : Set ObjectRef} {w w' w'' : World φ σ}

namespace Lays

theorem refl (w : World φ σ) : Lays G r S w w :=
  ⟨.refl w, rfl, .refl _, rfl, fun _ _ _ => rfl, id, fun _ _ _ => id⟩

theorem trans (h : Lays G r S w w') (h' : Lays G r S w' w'') : Lays G r S w w'' where
  grows := h.grows.trans h'.grows
  size_eq := h'.size_eq.trans h.size_eq
  later := h.later.trans h'.later
  memory_eq := h'.memory_eq.trans h.memory_eq
  same o ho hS := (h'.same o (Nat.lt_of_lt_of_le ho h.later.size_le) hS).trans (h.same o ho hS)
  good hg := h'.good (h.good hg)
  takes o name hg ht := h'.takes o name (h.good hg) (h.takes o name hg ht)

/-- Objects that were not there count for nothing. -/
theorem weaken (h : Lays G r S w w') (hS : ∀ o ∈ S, o < (w.heap r).size → o ∈ T) :
    Lays G r T w w' :=
  { h with same := fun o ho hT => h.same o ho fun hmem => hT (hS o hmem ho) }

/-- Nothing changes but records. -/
theorem record (w : World φ σ) (e : Event) : Lays G r S w (w.record e) :=
  ⟨Grows.frame.record w e, rfl, .refl _, rfl, fun _ _ _ => rfl, id, fun _ _ _ => id⟩

theorem register (w : World φ σ) (f : φ) : Lays G r S w (w.register r f).2 := by
  have hheap := w.heap_register r r f
  refine ⟨.register w r f, w.size_register r f, ?_, ?_, ?_, ?_, ?_⟩
  all_goals rw [hheap]
  · exact .refl _
  · exact fun _ _ _ => rfl
  · exact id
  · exact fun _ _ _ => id

theorem setHeap (hr : r < w.realms.size) {h : Heap} (hl : (w.heap r).Later h)
    (hmemory : h.memory = (w.heap r).memory)
    (hsame : ∀ o < (w.heap r).size, o ∉ S → h.object o = (w.heap r).object o)
    (hground : G.Good (w.heap r) → G.Good h ∧
      ∀ o name, G.Takes (w.heap r) o name → G.Takes h o name) :
    Lays G r S w (w.setHeap r h) := by
  have hheap := w.heap_setHeap_self hr h
  refine ⟨.setHeap w r h, w.size_setHeap r h, ?_, ?_, ?_, ?_, ?_⟩
  all_goals rw [hheap]
  · exact hl
  · exact hmemory
  · exact hsame
  · exact fun hg => (hground hg).1
  · exact fun o name hg => (hground hg).2 o name

theorem keepsFrom (h : Lays G r S w w') (hr : r < w.realms.size) {bound : ObjectRef}
    (hS : ∀ o ∈ S, o < bound) : KeepsFrom r bound w w' :=
  ⟨h.grows, hr, h.later.size_le, fun o hnew ho =>
    h.same o ho fun hmem => Nat.lt_irrefl o (Nat.lt_of_lt_of_le (hS o hmem) hnew)⟩

end Lays

theorem Site.after (hs : Site G r w) (h : Lays G r S w w') : Site G r w' :=
  ⟨h.size_eq ▸ hs.made, h.size_eq ▸ hs.few, h.grows.numbered hs.numbered, h.good hs.good⟩

/-! ## What a conversion does -/

/-- However host calls would be answered, a conversion does the same, changes no object but
those of a set, and what it returns obeys a law.  On sure ground it fails only if the engine has
no memory for something of at most so many bytes. -/
structure Builds (G : Ground) (r : RealmRef) (ev : Evaluator) (S : Set ObjectRef)
    (w : World φ σ) (law : World φ σ → α → Prop) (most : Nat)
    (run : Dispatcher φ σ → World φ σ × Except Failure α) : Prop where
  same (d d' : Dispatcher φ σ) : run d = run d'
  lays (d : Dispatcher φ σ) : Lays G r S w (run d).1
  law (d : Dispatcher φ σ) (x : α) : (run d).2 = .ok x → law (run d).1 x
  fails (d : Dispatcher φ σ) (e : Failure) : G.sure → (run d).2 = .error e →
    e = .scriptThrew ∧ ev.Refuses most ((run d).1.heap r)

namespace Builds

variable {ev : Evaluator} {law : World φ σ → α → Prop} {law' : World φ σ → β → Prop}
variable {most most' : Nat}

/-- A conversion that does not look at how host calls are answered. -/
theorem returned {x : α} (hlays : Lays G r S w w') (hlaw : law w' x) :
    Builds G r ev S w law most fun _ => (w', .ok x) := by
  refine ⟨fun _ _ => rfl, fun _ => hlays, fun _ y hy => ?_, fun _ _ _ he => (nomatch he)⟩
  cases hy
  exact hlaw

theorem failed {e : Failure} (hlays : Lays G r S w w')
    (hrefuses : G.sure → e = .scriptThrew ∧ ev.Refuses most (w'.heap r)) :
    Builds G r ev S w law most fun _ => (w', .error e) := by
  refine ⟨fun _ _ => rfl, fun _ => hlays, fun _ _ hx => (nomatch hx), fun _ e' hsure he => ?_⟩
  cases he
  exact hrefuses hsure

theorem after {run : Dispatcher φ σ → World φ σ × Except Failure α} (hlays : Lays G r S w w')
    (hrun : Builds G r ev S w' law most run) : Builds G r ev S w law most run :=
  { hrun with lays := fun d => hlays.trans (hrun.lays d) }

theorem sequel {run : Dispatcher φ σ → World φ σ × Except Failure α}
    {next : Dispatcher φ σ → World φ σ → α → World φ σ × Except Failure β}
    (hrun : Builds G r ev S w law most run) (hmost : most ≤ most')
    (hnext : ∀ w' x, Lays G r S w w' → law w' x →
      Builds G r ev S w' law' most' fun d => next d w' x) :
    Builds G r ev S w law' most' fun d => ScriptHost.sequel (run d) (next d) := by
  have hlays := hrun.lays refusing
  have hlaw := hrun.law refusing
  have hfails := hrun.fails refusing
  have hone : (fun d => ScriptHost.sequel (run d) (next d)) =
      fun d => ScriptHost.sequel (run refusing) (next d) :=
    funext fun d => by rw [hrun.same d refusing]
  rw [hone]
  generalize run refusing = a at hlays hlaw hfails ⊢
  obtain ⟨w', e | x⟩ := a
  · exact failed hlays fun hsure => (hfails e hsure rfl).imp_right (·.mono hmost)
  · exact .after hlays (hnext w' x hlays (hlaw x rfl))

theorem weaken {law' : World φ σ → α → Prop}
    {run : Dispatcher φ σ → World φ σ × Except Failure α}
    (hrun : Builds G r ev S w law most run) (hS : ∀ o ∈ S, o < (w.heap r).size → o ∈ T)
    (hlaw : ∀ w' x, Lays G r S w w' → law w' x → law' w' x) (hmost : most ≤ most') :
    Builds G r ev T w law' most' run :=
  { hrun with
    lays := fun d => (hrun.lays d).weaken hS
    law := fun d x hx => hlaw _ x (hrun.lays d) (hrun.law d x hx)
    fails := fun d e hsure he => (hrun.fails d e hsure he).imp_right (·.mono hmost) }

/-- On sure ground a conversion returns, or the engine has refused it. -/
theorem returns {run : Dispatcher φ σ → World φ σ × Except Failure α}
    (hrun : Builds G r ev S w law most run) (hsure : G.sure) (d : Dispatcher φ σ) :
    (∃ x, (run d).2 = .ok x ∧ law (run d).1 x) ∨
      (run d).2 = .error .scriptThrew ∧ ev.Refuses most ((run d).1.heap r) := by
  have hlaw := hrun.law d
  have hfails := hrun.fails d
  generalize run d = a at hlaw hfails ⊢
  obtain ⟨w', e | x⟩ := a
  · obtain ⟨rfl, hrefuses⟩ := hfails e hsure rfl
    exact .inr ⟨rfl, hrefuses⟩
  · exact .inl ⟨x, rfl, hlaw x rfl⟩

end Builds

/-! ## Steps of a conversion -/

section Steps

variable [Machine] {stack : Script.Stack} {most : Nat}

/-- An object that holds only values is made, if there is memory for it. -/
theorem Site.allocate (hs : Site G r w) {o : Object} (bytes : Nat)
    (ho : ∀ p, o.Holds p → ∃ x w, p.slot = .data x w) :
    Builds G r (Machine.evaluator stack) S w
      (fun w' x => w' = w.setHeap r ((w.heap r).allocate o).2 ∧ x = (w.heap r).size) bytes
      fun d => Crossing.allocate ⟨d, r, r, stack⟩ bytes o w := by
  simp only [Crossing.allocate_eq]
  by_cases hgrants : (Machine.evaluator stack).grants (w.heap r) bytes = true
  · have hlays : Lays G r S w (w.setHeap r ((w.heap r).allocate o).2) :=
      .setHeap hs.made (.allocate _ o) rfl
        (fun s hsize _ => Heap.object_allocate_of_lt _ _ hsize) fun hg => G.allocate hg ho
    simp only [Crossing.grants, Crossing.evaluator, hgrants, if_true]
    exact .returned hlays ⟨rfl, rfl⟩
  · simp only [Crossing.grants, Crossing.evaluator, hgrants]
    exact .failed (.refl w) fun _ =>
      ⟨rfl, bytes, Nat.le_refl _, _, Bool.eq_false_iff.mpr hgrants, .inl rfl⟩

/-- A string goes in as itself, if there is memory for it. -/
theorem Site.string (id : ValueId) (s : String) (w : World φ σ) :
    Builds G r (Machine.evaluator stack) S w (fun _ x => x = .string (Units.ofString s))
      (Crossing.stringBytes s) fun d => (Value.string id s).extract ⟨d, r, r, stack⟩ w := by
  simp only [Value.extract]
  by_cases hgrants :
      (Machine.evaluator stack).grants (w.heap r) (Crossing.stringBytes s) = true
  · simp only [Crossing.grants, Crossing.evaluator, hgrants, if_true]
    exact .returned (.refl w) rfl
  · simp only [Crossing.grants, Crossing.evaluator, hgrants]
    exact .failed (.refl w) fun _ =>
      ⟨rfl, _, Nat.le_refl _, _, Bool.eq_false_iff.mpr hgrants, .inl rfl⟩

/-- A function goes in as what it is in the realm. -/
theorem Site.restore (hs : Site G r w) (f : FunctionRef) :
    Builds G r (Machine.evaluator stack) S w (fun _ x => x = f.restored r) most
      fun d => Crossing.restore ⟨d, r, r, stack⟩ f w := by
  have hconfine (d : Dispatcher φ σ) : Crossing.restore ⟨d, r, r, stack⟩ f w =
      Crossing.confine ⟨d, r, r, stack⟩ f w := restore_eq_confine hs.numbered hs.few hs.made f
  simp only [hconfine, Crossing.confine, FunctionRef.restored]
  cases f.objectIn? r with
  | some o => exact .returned (.refl w) rfl
  | none => exact .returned (.record w _) rfl

omit [Machine] in
/-- The function of a callback has its name and the key of its slot. -/
private theorem own?_nativeObject (name : String) (k : NativeKey) :
    (Crossing.nativeObject name k).own? (key "name") =
      some (.readOnly (.string (text name))) := by
  have hnone : (Crossing.nativeObject name k).element? (key "name") = none := by
    unfold Object.element?
    cases (key "name").index? with
    | none => rfl
    | some i => rfl
  unfold Object.own?
  rw [hnone]
  exact if_pos rfl

omit [Machine] in
private theorem data_of_holds_nativeObject {name : String} {k : NativeKey} {p : Property}
    (hp : (Crossing.nativeObject name k).Holds p) : ∃ x w, p.slot = .data x w := by
  obtain ⟨k', hmem⟩ := Object.holds_of_make hp
  simp only [Script.functionProperties, List.mem_cons, List.not_mem_nil, or_false] at hmem
  rcases hmem with hmem | hmem
  · exact ⟨_, _, by rw [(Prod.mk.inj hmem).2]; rfl⟩
  · exact ⟨_, _, by rw [(Prod.mk.inj hmem).2]; rfl⟩

/-- The new function of a callback leads to it. -/
private theorem leadsTo_makeNative {d : Dispatcher φ σ} (hr : r < w.realms.size) {name : String}
    {f : φ} {o : ObjectRef}
    (hmade : (Crossing.makeNative ⟨d, r, r, stack⟩ name f w).2 = .ok o) :
    (Crossing.makeNative ⟨d, r, r, stack⟩ name f w).1.LeadsTo r o name f := by
  obtain ⟨hheap, rfl⟩ := heap_makeNative hr hmade
  have hobject : ((Crossing.makeNative ⟨d, r, r, stack⟩ name f w).1.heap r).object
      (w.heap r).size = Crossing.nativeObject name
        ⟨w.idOf r, UInt32.ofNat (w.realm r).natives.size⟩ := by
    rw [hheap, Heap.object_allocate_self]
  refine ⟨?_, UInt32.ofNat (w.realm r).natives.size, ?_, fun hfew => ?_⟩
  · have hown := own?_nativeObject name ⟨w.idOf r, UInt32.ofNat (w.realm r).natives.size⟩
    rw [← hobject] at hown
    exact Script.Heap.shows_of_own? hown rfl
  · unfold Heap.native?
    rw [hobject, idOf_makeNative]
    rfl
  · -- The number of the slot was not cut off, since all slots have numbers of their own.
    rw [natives_makeNative name f hr, Array.size_push] at hfew
    have hslot : (UInt32.ofNat (w.realm r).natives.size).toNat = (w.realm r).natives.size := by
      rw [UInt32.toNat_ofNat']
      exact Nat.mod_eq_of_lt (by omega)
    rw [Realm.native?, natives_makeNative name f hr, hslot, Array.getElem?_push_size]

/-- A callback goes in as a new function that leads to it. -/
theorem Site.makeNative (hs : Site G r w) (name : String) (f : φ) :
    Builds G r (Machine.evaluator stack) S w
      (fun w' x => (Export.callback f).Realised w' r (w.heap r).size name x)
      ((Export.callback f).largest name)
      fun d => (Export.callback f).realise ⟨d, r, r, stack⟩ name w := by
  have hregister : Lays G r S w (w.register r f).2 := .register w f
  have hmake : Builds G r (Machine.evaluator stack) S w _ _ fun d =>
      Crossing.allocate ⟨d, r, r, stack⟩ ((Export.callback f).largest name)
        (Crossing.nativeObject name ⟨w.idOf r, UInt32.ofNat (w.realm r).natives.size⟩)
        (w.register r f).2 :=
    .after hregister ((hs.after hregister).allocate _ fun _ hp => data_of_holds_nativeObject hp)
  have hleads : Builds G r (Machine.evaluator stack) S w
      (fun w' o => (w.heap r).size ≤ o ∧ o < (w'.heap r).size ∧ w'.LeadsTo r o name f)
      ((Export.callback f).largest name)
      fun d => Crossing.makeNative ⟨d, r, r, stack⟩ name f w := by
    refine { hmake with law := fun d o ho => ?_ }
    obtain ⟨hheap, rfl⟩ := heap_makeNative hs.made ho
    refine ⟨Nat.le_refl _, ?_, leadsTo_makeNative hs.made ho⟩
    rw [hheap]
    exact (w.heap r).lt_size_allocate _
  simp only [realise_callback]
  exact hleads.sequel (Nat.le_refl _) fun w' o _ ho => .returned (.refl w') ⟨o, rfl, ho⟩

/-- A new plain object has nothing of its own, and takes the names that are free. -/
structure Bare (G : Ground) (r : RealmRef) (w made : World φ σ) : Prop where
  lays : Lays G r {(w.heap r).size} w made
  size_eq : (made.heap r).size = (w.heap r).size + 1
  kind_eq : ((made.heap r).object (w.heap r).size).kind = .plain
  elements_eq : ((made.heap r).object (w.heap r).size).elements.size = 0
  own?_eq (k : Script.Key) : ((made.heap r).object (w.heap r).size).own? k = none
  takes {name : String} : G.Free name → G.Takes (made.heap r) (w.heap r).size name

/-- A new plain object is bare. -/
private theorem Site.allocatePlain (hs : Site G r w) :
    Builds G r (Machine.evaluator stack) {(w.heap r).size} w
      (fun made target => target = (w.heap r).size ∧ Bare G r w made) Crossing.objectBytes
      fun d => Crossing.allocatePlain ⟨d, r, r, stack⟩ w := by
  have hnothing (p : Property)
      (hp : (Script.Object.ofKind .plain (some Script.Place.objectPrototype)).Holds p) : False := by
    obtain ⟨k, hmem⟩ := Object.holds_of_make hp
    cases hmem
  refine .weaken (hs.allocate Crossing.objectBytes fun p hp => (hnothing p hp).elim)
    (fun _ h _ => h) (fun made target hlays hmade => ?_) (Nat.le_refl _)
  obtain ⟨rfl, rfl⟩ := hmade
  have hheap := w.heap_setHeap_self hs.made ((w.heap r).allocate
    (.ofKind .plain (some Script.Place.objectPrototype))).2
  refine ⟨rfl, hlays, ?_, ?_, ?_, fun k => ?_, fun hfree => ?_⟩
  all_goals rw [hheap]
  · exact (w.heap r).size_allocate _
  · rw [Heap.object_allocate_self]
    rfl
  · rw [Heap.object_allocate_self]
    rfl
  · rw [Heap.object_allocate_self, Option.eq_none_iff_forall_not_mem]
    exact fun p hp => hnothing p (Object.holds_of_own? hp)
  · exact G.fresh hs.good hfree

/-- An assignment that finishes by itself. -/
private theorem assign_of_finished {d : Dispatcher φ σ} {target : ObjectRef} {name : String}
    {v : Val} {h : Heap} {o : Script.Outcome Unit}
    (hrun : Script.setProperty (Machine.evaluator stack) (.object target) (key name) v (w.heap r) =
      .finished h o) :
    Crossing.assign ⟨d, r, r, stack⟩ target name v w =
      (w.setHeap r h, match o with
        | .returned _ => .ok ()
        | _ => .error .scriptThrew) := by
  simp only [Crossing.assign, Crossing.run, Crossing.evaluator, hrun, drive]
  cases o <;> rfl

/-- A name is assigned that the target takes.  On sure ground nothing stands against it but a
row of elements that cannot grow. -/
theorem Site.assign [LawfulMachine] (hs : Site G r w) {target : ObjectRef} {name : String}
    (ht : G.Takes (w.heap r) target name) (v : Val) :
    Builds G r (Machine.evaluator stack) {target} w
      (fun w' _ => (name ≠ Script.prototypeName → (w'.heap r).Shows target name v) ∧
        (∀ k, k ≠ key name →
          ((w'.heap r).object target).own? k = ((w.heap r).object target).own? k) ∧
        ((w'.heap r).object target).elements.size ≤ ((w.heap r).object target).elements.size + 1)
      (Script.elementBytes * (((w.heap r).object target).elements.size + 1))
      fun d => Crossing.assign ⟨d, r, r, stack⟩ target name v w := by
  have hmade := G.made ht
  obtain ⟨h, o, hrun, hassigns⟩ := Script.setProperty_assigns (G.noArray ht)
    (G.calm hs.good ht) (LawfulMachine.sets stack) v
  have hlays : Lays G r {target} w (w.setHeap r h) :=
    .setHeap hs.made hassigns.later hassigns.memory_eq
      (fun s hsize hne => hassigns.object_eq hsize hne) fun hg => G.assign hg ht hassigns
  have hrefuses (hsure : G.sure) (hnot : o ≠ .returned ()) :
      (Machine.evaluator stack).Refuses
        (Script.elementBytes * (((w.heap r).object target).elements.size + 1)) h := by
    obtain ⟨hextensible, hfound⟩ := G.writable hsure hs.good ht
    by_cases hplace : (Machine.evaluator stack).HasPlace (w.heap r) target
    · obtain ⟨h', hdone⟩ := Script.setProperty_returns (G.noArray ht) hextensible hplace hfound v
      rw [hrun] at hdone
      cases hdone
      exact absurd rfl hnot
    · simp only [Evaluator.HasPlace, Classical.not_imp, Bool.not_eq_true] at hplace
      refine ⟨_, Nat.le_refl _, _, hplace.2, ?_⟩
      cases hassigns with
      | failed error _ => exact .inr ⟨error, rfl⟩
      | refused => exact .inl rfl
      | put _ _ _ => exact absurd rfl hnot
      | inherited _ _ => exact absurd rfl hnot
      | ignored _ => exact absurd rfl hnot
  have hfails (hsure : G.sure) (hnot : o ≠ .returned ()) :
      Failure.scriptThrew = .scriptThrew ∧ (Machine.evaluator stack).Refuses
        (Script.elementBytes * (((w.heap r).object target).elements.size + 1))
        ((w.setHeap r h).heap r) := by
    rw [w.heap_setHeap_self hs.made]
    exact ⟨rfl, hrefuses hsure hnot⟩
  simp only [assign_of_finished hrun]
  cases o with
  | returned u =>
      refine .returned hlays ?_
      rw [w.heap_setHeap_self hs.made]
      refine ⟨fun hname => ?_, fun k hk => hassigns.own?_eq hmade hk,
        hassigns.size_elements_le hmade⟩
      obtain ⟨p, hown, hslot⟩ := hassigns.own?_self hmade (Script.key_ne hname)
      exact Script.Heap.shows_of_own? hown hslot
  | thrown e => exact .failed hlays fun hsure => hfails hsure (by simp)
  | suspended => exact .failed hlays fun hsure => hfails hsure (by simp)

end Steps

/-! ## Whole values -/

/-- A namespace was exported onto an object: the object shows it, and under other names it is
as it was. -/
structure Installed (r : RealmRef) (target : ObjectRef) (n : Namespace φ)
    (w w' : World φ σ) : Prop where
  realised : n.Realised w' r (w.heap r).size target
  others (k : Script.Key) : (∀ name ∈ n.names, k ≠ key name) →
    ((w'.heap r).object target).own? k = ((w.heap r).object target).own? k

theorem Namespace.mem_exportNames {name : String} (n : Namespace φ) (hname : name ∈ n.names) :
    name ∈ n.exportNames := by
  cases n with
  | empty => exact absurd hname List.not_mem_nil
  | entry first item rest =>
      simp only [Namespace.exportNames, List.mem_cons, List.mem_append]
      exact (List.mem_cons.mp hname).imp_right fun hrest => .inr (rest.mem_exportNames hrest)

/-- What is realised from a bound on is realised from a lower one on. -/
private theorem Namespace.Realised.lower {n : Namespace φ} {low bound target : ObjectRef}
    (hr : r < w.realms.size) (hlow : low ≤ bound) (hn : n.Realised w r bound target) :
    n.Realised w r low target :=
  n.keep_realised ⟨.refl w, hr, Nat.le_refl _, fun _ _ _ => rfl⟩ hlow rfl hn

section Values

variable [Machine] (stack : Script.Stack)

/-- A fresh object gets the exports of a namespace. -/
private theorem object_builds {stack : Script.Stack} (i : ValueId) {exports : Namespace φ}
    {w : World φ σ} (hfree : ∀ name ∈ exports.exportNames, G.Free name)
    (hinstall : ∀ {target : ObjectRef} {w : World φ σ}, Site G r w →
      (∀ name ∈ exports.names, G.Takes (w.heap r) target name) →
      ((w.heap r).object target).elements.size ≤ 0 →
      Builds G r (Machine.evaluator stack) {target} w
        (fun w' _ => Installed r target exports w w') (exports.largest 0)
        fun d => exports.install ⟨d, r, r, stack⟩ target w) (hs : Site G r w) :
    Builds G r (Machine.evaluator stack) ∅ w
      (fun w' x => (Value.object i exports).Realised w' r (w.heap r).size x)
      (Value.object i exports).largest
      fun d => (Value.object i exports).extract ⟨d, r, r, stack⟩ w := by
  simp only [extract_object]
  have hbuilds : Builds G r (Machine.evaluator stack) {(w.heap r).size} w
      (fun w' x => (Value.object i exports).Realised w' r (w.heap r).size x)
      (Value.object i exports).largest fun d => sequel (Crossing.allocatePlain ⟨d, r, r, stack⟩ w)
        fun w' target => sequel (exports.install ⟨d, r, r, stack⟩ target w') fun w'' _ =>
          (w'', .ok (.object target)) := by
    refine .sequel hs.allocatePlain (Nat.le_max_left _ _) fun made target _ hmade => ?_
    obtain ⟨rfl, hbare⟩ := hmade
    have hs' := hs.after hbare.lays
    have hmade : (w.heap r).size < (made.heap r).size := hbare.size_eq ▸ Nat.lt_succ_self _
    refine .sequel (hinstall hs' (fun name hname =>
        hbare.takes (hfree name (exports.mem_exportNames hname))) (Nat.le_of_eq hbare.elements_eq))
      (Nat.le_max_right _ _) fun w' _ hafter hin => .returned (.refl w') ?_
    refine ⟨_, rfl, ⟨Nat.le_refl _, Nat.lt_of_lt_of_le hmade hafter.later.size_le, ?_,
      fun k hother => ⟨?_, ?_⟩⟩,
      hin.realised.lower (hs'.after hafter).made (Nat.le_of_lt hmade)⟩
    · exact (hafter.later.kind_eq _ hmade).trans hbare.kind_eq
    · -- What the object has besides the exports it had when it was new, which is nothing.
      rintro ⟨p, hp⟩
      by_contra hnot
      rw [hin.others k fun name hname hk => hnot ⟨name, hname, hk⟩, hbare.own?_eq] at hp
      cases hp
    · rintro ⟨name, hname, rfl⟩
      have hne : name ≠ Script.prototypeName := by
        rintro rfl
        exact hother.elim (fun h => h rfl) fun h => h hname
      obtain ⟨x, hx⟩ := Namespace.Realised.shows hne exports hname hin.realised
      obtain ⟨writable, e, c, hown⟩ := hx.own
      exact ⟨_, hown⟩
  refine hbuilds.weaken ?_ (fun _ _ _ => id) (Nat.le_refl _)
  rintro o rfl ho
  exact absurd ho (Nat.lt_irrefl _)

mutual
/-- A host value goes in as what it is realised as. -/
theorem extract_builds [LawfulMachine] (v : Value φ) (hfree : ∀ name ∈ v.exportNames, G.Free name)
    {w : World φ σ} (hs : Site G r w) :
    Builds G r (Machine.evaluator stack) ∅ w
      (fun w' x => v.Realised w' r (w.heap r).size x) v.largest
      fun d => v.extract ⟨d, r, r, stack⟩ w := by
  cases v with
  | null => exact .returned (.refl w) rfl
  | undefined => exact .returned (.refl w) rfl
  | number id x => exact .returned (.refl w) rfl
  | string id s => exact Site.string id s w
  | function id f => exact hs.restore f
  | object id exports =>
      exact object_builds id hfree
        (fun hs htakes hrow => install_builds exports hfree hs htakes hrow) hs

/-- The exports of a namespace are realised and assigned one after the other. -/
theorem install_builds [LawfulMachine] (n : Namespace φ)
    (hfree : ∀ name ∈ n.exportNames, G.Free name) {w : World φ σ} (hs : Site G r w)
    {target : ObjectRef} (htakes : ∀ name ∈ n.names, G.Takes (w.heap r) target name) {row : Nat}
    (hrow : ((w.heap r).object target).elements.size ≤ row) :
    Builds G r (Machine.evaluator stack) {target} w
      (fun w' _ => Installed r target n w w') (n.largest row)
      fun d => n.install ⟨d, r, r, stack⟩ target w := by
  cases n with
  | empty => exact .returned (.refl w) ⟨trivial, fun _ _ => rfl⟩
  | entry name item rest =>
      simp only [Namespace.exportNames, List.mem_cons, List.mem_append] at hfree
      have htake := htakes name List.mem_cons_self
      have hmade := G.made htake
      simp only [install_entry]
      refine .sequel (.weaken (realise_builds item name
        (fun other h => hfree other (.inr (.inl h))) hs) (fun _ h => absurd h (Set.notMem_empty _))
        (fun w₁ _ hlays h => And.intro (hlays.same target hmade (Set.notMem_empty _)) h)
        (Nat.le_refl _)) (Nat.le_max_left _ _) fun w₁ v hlays₁ ⟨htarget, hitem⟩ => ?_
      have hs₁ := hs.after hlays₁
      rw [← htarget] at hrow
      refine .sequel (hs₁.assign (hlays₁.takes target name hs.good htake) v)
        ((Nat.mul_le_mul_left _ (Nat.succ_le_succ hrow)).trans
          ((Nat.le_max_left _ _).trans (Nat.le_max_right _ _)))
        fun w₂ _ hlays₂ ⟨hshows, hothers, helements⟩ => ?_
      have hs₂ := hs₁.after hlays₂
      have hlays₁₂ := hlays₁.trans hlays₂
      rw [htarget] at hothers
      refine .weaken (install_builds rest (fun other h => hfree other (.inr (.inr h))) hs₂
        (fun other hother => hlays₁₂.takes target other hs.good
          (htakes other (List.mem_cons_of_mem _ hother)))
        (helements.trans (Nat.succ_le_succ hrow))) (fun _ h _ => h)
        (fun w₃ _ hlays₃ hrest => ⟨⟨fun hname hlast => ⟨v, ?_, ?_⟩, ?_⟩, fun k hk => ?_⟩)
        ((Nat.le_max_right _ _).trans (Nat.le_max_right _ _))
      · -- No later export has this name.
        obtain ⟨writable, e, c, hown⟩ := (hshows hname).own
        rw [← hrest.others (key name) fun other hother =>
          Script.key_ne fun heq => hlast (heq ▸ hother)] at hown
        exact Script.Heap.shows_of_own? hown rfl
      · have hkeeps : KeepsFrom r (w.heap r).size w₁ w₃ :=
          (hlays₂.trans hlays₃).keepsFrom hs₁.made fun o ho => ho ▸ hmade
        exact hitem.keep hkeeps (Nat.le_refl _)
      · exact hrest.realised.lower (hs₂.after hlays₃).made hlays₁₂.later.size_le
      · have hfirst := hothers k (hk name List.mem_cons_self)
        have hlater := hrest.others k fun other hother => hk other (List.mem_cons_of_mem _ hother)
        exact hlater.trans hfirst

/-- An export is realised under its name. -/
theorem realise_builds [LawfulMachine] (item : Export φ) (name : String)
    (hfree : ∀ name ∈ item.exportNames, G.Free name) {w : World φ σ} (hs : Site G r w) :
    Builds G r (Machine.evaluator stack) ∅ w
      (fun w' x => item.Realised w' r (w.heap r).size name x) (item.largest name)
      fun d => item.realise ⟨d, r, r, stack⟩ name w := by
  cases item with
  | value v => exact extract_builds v hfree hs
  | callback f => exact hs.makeNative name f
  | nested exports =>
      simp only [realise_nested _ _ 0]
      exact object_builds 0 hfree
        (fun hs htakes hrow => install_builds exports hfree hs htakes hrow) hs
end

end Values

end ScriptHost
