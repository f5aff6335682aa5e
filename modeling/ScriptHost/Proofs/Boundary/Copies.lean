import ScriptHost.Proofs.Boundary.Parts
import ScriptHost.Proofs.Boundary.RoundTrip
import ScriptHost.Proofs.Boundary.Visible

/-!
# Every realisation is a copy

A value or a namespace can be handed to scripts any number of times.  What is made for it each
time, the objects and the functions of its callbacks at every depth, is in no other realisation
and was not there before.  All that two realisations in a realm can have in common are functions
of that realm that the host has put in, and those are the same in both.  So a write to what was
made for one of them is not seen through any other.

`Realisations` is the history of a host as far as this goes.  A realisation begins, and one part
after the other is given for it; in between, anything may happen that makes the world later,
and other realisations may begin and be given parts, as when an assignment calls a setter that
calls the host.  One step keeps the invariant that what was made is apart, because it was made
next to all that was there; the run lemma is `Realisations.apart`.  `Realisations.enter` says
that what the program does is such a history, and `Host.Goes.later` that everything else that
hosts and scripts do may happen in between.
-/

namespace ScriptHost

open Script (Evaluator Ground Heap Val)

variable {φ γ σ : Type}

/-! ## What is handed over -/

/-- What a host hands to the scripts of a realm: a value, or the exports for an object that is
there. -/
inductive Handed (φ : Type) where
  | value (v : Value φ)
  | exports (n : Namespace φ) (target : ObjectRef)

namespace Handed

/-- All that is asked for. -/
def pieces : Handed φ → List (List String × Piece φ)
  | .value v => v.pieces []
  | .exports n _ => n.pieces []

/-- The functions of a realm that are asked for. -/
def own (a : Handed φ) (r : RealmRef) : List ObjectRef := a.pieces.filterMap fun e => e.2.own? r

/-- Crosses into the realm. -/
def enter (c : Crossing φ σ) : Handed φ → World φ σ → World φ σ × Except Failure Val
  | .value v, w => v.extract c w
  | .exports n target, w => sequel (n.install c target w) fun w' _ => (w', .ok (.object target))

/-- What is given for it, as far as it comes. -/
def parts (c : Crossing φ σ) : Handed φ → World φ σ → List (Part φ)
  | .value v, w => v.parts c [] w
  | .exports n target, w => n.parts c [] target w

theorem enter_realises {d d' : Dispatcher φ σ}
    (A : Regime.roaming.Answers .any (.all : Knowledge φ γ σ) d d') (a : Handed φ)
    {r : RealmRef} {stack : Script.Stack} {w : World φ σ}
    (hw : w.Sound .any (.all : Knowledge φ γ σ))
    (hr : r < w.realms.size) (hfew : (a.enter ⟨d, r, r, stack⟩ w).1.realms.size < 2 ^ 32) :
    Realises r a.pieces w (a.parts ⟨d, r, r, stack⟩ w) (a.enter ⟨d, r, r, stack⟩ w) := by
  cases a with
  | value v => exact extract_realises A v [] hw hr hfew
  | exports n target =>
      have hfew' := few_of_sequel (fun w' _ _ => Grows.refl w') hfew
      exact (install_realises A n [] hw hr hfew').returning _

/-- A sound world is left. -/
theorem enter_sound {d d' : Dispatcher φ σ}
    (A : Regime.roaming.Answers .any (.all : Knowledge φ γ σ) d d') (a : Handed φ)
    {r : RealmRef} {stack : Script.Stack} {w : World φ σ}
    (hw : w.Sound .any (.all : Knowledge φ γ σ))
    (hr : r < w.realms.size) (hfew : (a.enter ⟨d, r, r, stack⟩ w).1.realms.size < 2 ^ 32) :
    (a.enter ⟨d, r, r, stack⟩ w).1.Sound .any (.all : Knowledge φ γ σ) := by
  have hready : Regime.roaming.Ready .any (.all : Knowledge φ γ σ) r w := ⟨trivial, hr, hw⟩
  cases a with
  | value v => exact (A.extract stack v World.le_held_any hready hfew).sound
  | exports n target =>
      have hfew' := few_of_sequel (fun w' _ _ => Grows.refl w') hfew
      have htarget : Script.RefRule.any.Allows (w.heap r).size target := trivial
      have hinstall := A.install stack n World.le_held_any htarget hready hfew'
      simp only [enter]
      generalize n.install ⟨d, r, r, stack⟩ target w = b at hinstall ⊢
      obtain ⟨w', e | u⟩ := b
      · exact hinstall.sound
      · exact hinstall.sound

end Handed

/-- The first part of a value is the value itself. -/
theorem Value.parts_result (c : Crossing φ σ) (place : List String) (v : Value φ)
    {w : World φ σ} {x : Val} (hx : (v.extract c w).2 = .ok x) :
    ∃ p ∈ v.parts c place w, p.place = place ∧ p.value = x := by
  cases v with
  | null | undefined | number _ _ =>
      cases hx
      exact ⟨_, List.mem_singleton_self _, rfl, rfl⟩
  | string id s =>
      simp only [Value.parts]
      generalize (Value.string id s).extract c w = a at hx ⊢
      obtain ⟨w', y⟩ := a
      cases hx
      exact ⟨_, List.mem_singleton_self _, rfl, rfl⟩
  | function id f =>
      change (c.restore f w).2 = .ok x at hx
      simp only [Value.parts]
      generalize c.restore f w = a at hx ⊢
      obtain ⟨w', y⟩ := a
      cases hx
      exact ⟨_, List.mem_singleton_self _, rfl, rfl⟩
  | object id exports =>
      rw [extract_object] at hx
      simp only [Value.parts]
      generalize c.allocatePlain w = a at hx ⊢
      obtain ⟨w', e | target⟩ := a
      · cases hx
      · simp only [sequel] at hx
        generalize exports.install c target w' = b at hx
        obtain ⟨w'', e | u⟩ := b
        · cases hx
        · cases hx
          exact ⟨_, List.mem_cons_self, rfl, rfl⟩

/-! ## Realisations -/

/-- Something was handed to a realm that had so many objects then, and has been given parts. -/
structure Realisation (φ : Type) where
  realm : RealmRef
  handed : Handed φ
  before : Nat
  parts : List (Part φ)

namespace Realisation

/-- The objects that were made for it. -/
def made (x : Realisation φ) : List ObjectRef := madeOf x.parts

/-- The objects that it consists of. -/
def objects (x : Realisation φ) : List ObjectRef := objectsOf x.parts

/-- The functions of the realm that it consists of. -/
def own (x : Realisation φ) : List ObjectRef := ownOf x.realm x.parts

/-- Everything that was asked for has been given. -/
def Complete (x : Realisation φ) : Prop := x.parts.map Part.asked = x.handed.pieces

/-- Another part is given. -/
def given (x : Realisation φ) (p : Part φ) : Realisation φ := { x with parts := x.parts ++ [p] }

/-- What has been given is what was asked for, in this order, and each object that was made was
made for one part of it and was not there before.  The functions that are asked for were. -/
structure Copied (x : Realisation φ) (w : World φ σ) : Prop where
  realm : x.realm < w.realms.size
  size : x.before ≤ (w.heap x.realm).size
  begins : x.parts.map Part.asked <+: x.handed.pieces
  lawful : ∀ p ∈ x.parts, p.Lawful x.realm w
  new : ∀ o ∈ x.made, x.before ≤ o ∧ o < (w.heap x.realm).size
  once : x.made.Pairwise (· < ·)
  old : ∀ o ∈ x.handed.own x.realm, o < x.before

/-- Nothing was made for both realisations. -/
def Apart (x y : Realisation φ) : Prop := x.realm = y.realm → ∀ o ∈ x.made, o ∉ y.made

/-- A realisation began after another one, and nothing was made for both. -/
structure After (x y : Realisation φ) : Prop where
  order : x.realm = y.realm → y.before ≤ x.before
  apart : x.Apart y

/-- Two realisations in a realm, the first of which began later, have nothing in common but
functions of the realm that were handed over, and those are the same. -/
structure Separate (x y : Realisation φ) : Prop where
  new : ∀ o ∈ x.made, o ∉ y.objects
  shared : ∀ o ∈ x.objects, o ∈ y.objects → o ∈ x.own
  same : x.handed = y.handed → x.Complete → y.Complete →
    ∀ o, o ∈ x.objects ∧ o ∈ y.objects ↔ o ∈ x.own
  functions : ∀ p ∈ x.parts, ∀ q ∈ y.parts, ∀ f, p.piece = .function f → q.piece = .function f →
    p.value = q.value

/-- What was made for it stays as it is. -/
def Kept (x : Realisation φ) (w w' : World φ σ) : Prop :=
  ∀ o ∈ x.made, (w'.heap x.realm).object o = (w.heap x.realm).object o

section Steps

variable {x y : Realisation φ} {w w' : World φ σ} {p : Part φ} {o : ObjectRef}

theorem made_given : (x.given p).made = x.made ++ p.made?.toList := by
  unfold made given madeOf
  rw [List.filterMap_append]
  cases hp : p.made? with
  | none => rw [List.filterMap_cons_none hp, List.filterMap_nil, Option.toList_none]
  | some o => rw [List.filterMap_cons_some hp, List.filterMap_nil, Option.toList_some]

theorem mem_made_given : o ∈ (x.given p).made ↔ o ∈ x.made ∨ p.made? = some o := by
  rw [made_given, List.mem_append, Option.mem_toList]

namespace Copied

/-- It consists of what was made for it and of functions of the realm. -/
theorem mem_objects (hx : x.Copied w) : o ∈ x.objects ↔ o ∈ x.made ∨ o ∈ x.own := by
  unfold objects made own objectsOf madeOf ownOf
  simp only [List.mem_filterMap]
  constructor
  · rintro ⟨p, hp, ho⟩
    exact (((hx.lawful p hp).object?_iff o).mp ho).imp (⟨p, hp, ·⟩) (⟨p, hp, ·⟩)
  · rintro (⟨p, hp, ho⟩ | ⟨p, hp, ho⟩)
    · exact ⟨p, hp, ((hx.lawful p hp).object?_iff o).mpr (.inl ho)⟩
    · exact ⟨p, hp, ((hx.lawful p hp).object?_iff o).mpr (.inr ho)⟩

theorem own_eq (x : Realisation φ) :
    x.own = (x.parts.map Part.asked).filterMap fun e => e.2.own? x.realm := by
  rw [List.filterMap_map]
  rfl

/-- The functions of the realm that it consists of were there before. -/
theorem own_lt (hx : x.Copied w) (ho : o ∈ x.own) : o < x.before := by
  rw [own_eq] at ho
  exact hx.old o ((hx.begins.filterMap _).subset ho)

theorem later (hx : x.Copied w) (hl : w.Later w') : x.Copied w' where
  realm := Nat.lt_of_lt_of_le hx.realm hl.size_le
  size := hx.size.trans (hl.heaps x.realm).size_le
  begins := hx.begins
  lawful p hp := (hx.lawful p hp).later hl
  new o ho := ⟨(hx.new o ho).1, Nat.lt_of_lt_of_le (hx.new o ho).2 (hl.heaps x.realm).size_le⟩
  once := hx.once
  old := hx.old

/-- A part that is given is made next to all that is there. -/
theorem given (hx : x.Copied w) (hp : Gives x.realm w w' p)
    (hnext : (x.given p).parts.map Part.asked <+: x.handed.pieces) : (x.given p).Copied w' := by
  have hl := hx.later hp.later
  refine { hl with begins := hnext, lawful := ?_, new := ?_, once := ?_ }
  · intro q hq
    rcases List.mem_append.mp hq with hq | hq
    · exact hl.lawful q hq
    · rw [List.mem_singleton.mp hq]
      exact hp.lawful
  · intro o ho
    rcases mem_made_given.mp ho with ho | ho
    · exact hl.new o ho
    · obtain ⟨rfl, hnew⟩ := hp.new o ho
      exact ⟨hx.size, hnew⟩
  · rw [made_given, List.pairwise_append]
    refine ⟨hx.once, ?_, fun o ho o' ho' => ?_⟩
    · cases p.made? with
      | none => exact .nil
      | some o => exact List.pairwise_singleton _ o
    · have hsize := (hp.new o' (Option.mem_toList.mp ho')).1
      rw [hsize]
      exact (hx.new o ho).2

/-- What was made is a plain object or a function. -/
theorem isArray_made (hx : x.Copied w) (ho : o ∈ x.made) :
    ((w.heap x.realm).object o).isArray = false := by
  obtain ⟨⟨place, piece, value⟩, hp, hmade⟩ := List.mem_filterMap.mp ho
  have hlawful := hx.lawful _ hp
  cases piece with
  | scalar => cases hmade
  | function f => cases hmade
  | callback f =>
      obtain ⟨o', rfl, hexported⟩ := hlawful
      cases hmade
      obtain ⟨-, n, -, hnative⟩ := hexported.native?
      unfold Heap.native? at hnative
      unfold Script.Object.isArray
      split
      · rename_i hkind
        rw [hkind] at hnative
        cases hnative
      · rfl
  | object =>
      obtain ⟨o', rfl, -, hkind⟩ := hlawful
      cases hmade
      unfold Script.Object.isArray
      rw [hkind]

end Copied

theorem Apart.symm (hxy : x.Apart y) : y.Apart x :=
  fun hrealm o hy hx => hxy hrealm.symm o hx hy

instance : Std.Symm (Apart (φ := φ)) := ⟨fun _ _ => Apart.symm⟩

/-- What is made for one of them is next to all that was made for the other. -/
theorem Apart.given (hxy : x.Apart y) (hy : y.Copied w) (hp : Gives x.realm w w' p) :
    (x.given p).Apart y := by
  intro hrealm o ho hmem
  rcases mem_made_given.mp ho with ho | ho
  · exact hxy hrealm o ho hmem
  · have hlt : o < o := calc
      o < (w.heap y.realm).size := (hy.new o hmem).2
      _ = (w.heap x.realm).size := by rw [show x.realm = y.realm from hrealm]
      _ = o := (hp.new o ho).1.symm
    exact Nat.lt_irrefl o hlt

namespace After

theorem given_left (hxy : x.After y) (hy : y.Copied w) (hp : Gives x.realm w w' p) :
    (x.given p).After y :=
  ⟨hxy.order, hxy.apart.given hy hp⟩

theorem given_right (hyx : y.After x) (hy : y.Copied w) (hp : Gives x.realm w w' p) :
    y.After (x.given p) :=
  ⟨hyx.order, (hyx.apart.symm.given hy hp).symm⟩

/-- What is common to both was not made for the later one, and what was made for the earlier
one is not what the later one was handed if both were handed the same. -/
theorem separate (hxy : x.After y) (hrealm : x.realm = y.realm) (hx : x.Copied w)
    (hy : y.Copied w) : x.Separate y := by
  have hnew : ∀ o ∈ x.made, o ∉ y.objects := by
    intro o ho hmem
    rcases hy.mem_objects.mp hmem with hmem | hmem
    · exact hxy.apart hrealm o ho hmem
    · have hlt : o < o := calc
        o < y.before := hy.own_lt hmem
        _ ≤ x.before := hxy.order hrealm
        _ ≤ o := (hx.new o ho).1
      exact Nat.lt_irrefl o hlt
  have hshared : ∀ o ∈ x.objects, o ∈ y.objects → o ∈ x.own := by
    intro o ho hmem
    exact (hx.mem_objects.mp ho).resolve_left fun hmade => hnew o hmade hmem
  refine ⟨hnew, hshared, ?_, ?_⟩
  · -- If both were handed the same, the functions of the realm are in both.
    intro hhanded hcx hcy o
    have hown : x.own = y.own := by
      rw [Copied.own_eq, Copied.own_eq, hcx, hcy, hhanded, hrealm]
    refine ⟨fun h => hshared o h.1 h.2, fun ho => ⟨?_, ?_⟩⟩
    · exact hx.mem_objects.mpr (.inr ho)
    · exact hy.mem_objects.mpr (.inr (hown ▸ ho))
  · -- What a function is in a realm does not depend on when it was handed over.
    intro p hp q hq f hpf hqf
    have hpx := hx.lawful p hp
    have hqy := hy.lawful q hq
    unfold Part.Lawful at hpx hqy
    rw [hpf] at hpx
    rw [hqf] at hqy
    rw [hpx, hqy, hrealm]

end After

end Steps

end Realisation

/-! ## Histories -/

/-- The realisations up to a world, the last one to begin first. -/
inductive Realisations : List (Realisation φ) → World φ σ → Prop
  | start (w : World φ σ) : Realisations [] w
  /-- Something else happens. -/
  | meanwhile {l : List (Realisation φ)} {w w' : World φ σ} :
      Realisations l w → w.Later w' → Realisations l w'
  /-- Something is handed to a realm that has the functions in it that are from there. -/
  | begins {l : List (Realisation φ)} {w : World φ σ} (r : RealmRef) (a : Handed φ) :
      Realisations l w → r < w.realms.size → (∀ o ∈ a.own r, o < (w.heap r).size) →
        Realisations (⟨r, a, (w.heap r).size, []⟩ :: l) w
  /-- One of the realisations is given its next part. -/
  | gives {later earlier : List (Realisation φ)} {x : Realisation φ} {p : Part φ}
      {w w' : World φ σ} :
      Realisations (later ++ x :: earlier) w → Gives x.realm w w' p →
        (x.given p).parts.map Part.asked <+: x.handed.pieces →
          Realisations (later ++ x.given p :: earlier) w'

namespace Realisations

variable {l : List (Realisation φ)} {w w' : World φ σ}

/-- Every realisation consists of new objects, also next to the realisations before it. -/
theorem apart (h : Realisations l w) :
    (∀ x ∈ l, x.Copied w) ∧ l.Pairwise Realisation.After := by
  -- While a part is given for one realisation, it is compared with those that began after it
  -- and with those that began before.
  induction h with
  | start w => exact ⟨fun x hx => absurd hx List.not_mem_nil, .nil⟩
  | meanwhile _ hl ih => exact ⟨fun x hx => (ih.1 x hx).later hl, ih.2⟩
  | @begins l w r a _ hr hown ih =>
      obtain ⟨hcopied, hpairs⟩ := ih
      refine ⟨fun x hx => ?_, List.pairwise_cons.mpr ⟨fun y hy => ⟨?_, ?_⟩, hpairs⟩⟩
      · rcases List.mem_cons.mp hx with rfl | hx
        · exact ⟨hr, Nat.le_refl _, List.nil_prefix, fun p hp => absurd hp List.not_mem_nil,
            fun o ho => absurd ho List.not_mem_nil, .nil, hown⟩
        · exact hcopied x hx
      · intro hrealm
        obtain rfl : r = y.realm := hrealm
        exact (hcopied y hy).size
      · intro _ o ho
        exact absurd ho List.not_mem_nil
  | @gives later earlier x p w w' _ hp hnext ih =>
      obtain ⟨hcopied, hpairs⟩ := ih
      have hx := hcopied x (List.mem_append_right later List.mem_cons_self)
      have hlater (y : Realisation φ) (hy : y ∈ later) : y.Copied w :=
        hcopied y (List.mem_append_left _ hy)
      have hearlier (y : Realisation φ) (hy : y ∈ earlier) : y.Copied w :=
        hcopied y (List.mem_append_right later (List.mem_cons_of_mem x hy))
      -- The one that is given a part stands between those that began later and earlier.
      rw [List.pairwise_append, List.pairwise_cons] at hpairs ⊢
      obtain ⟨hpairs, ⟨hbehind, hpairs'⟩, hacross⟩ := hpairs
      refine ⟨fun y hy => ?_, hpairs, ⟨fun y hy => ?_, hpairs'⟩, fun y hy z hz => ?_⟩
      · rcases List.mem_append.mp hy with hy | hy
        · exact (hlater y hy).later hp.later
        · rcases List.mem_cons.mp hy with rfl | hy
          · exact hx.given hp hnext
          · exact (hearlier y hy).later hp.later
      · exact (hbehind y hy).given_left (hearlier y hy) hp
      · rcases List.mem_cons.mp hz with rfl | hz
        · exact (hacross y hy x List.mem_cons_self).given_right (hlater y hy) hp
        · exact hacross y hy z (List.mem_cons_of_mem x hz)

theorem separate (h : Realisations l w) :
    l.Pairwise fun x y => x.realm = y.realm → x.Separate y := by
  obtain ⟨hcopied, hpairs⟩ := h.apart
  refine hpairs.imp_of_mem fun {x y} hx hy hxy hrealm => ?_
  exact hxy.separate hrealm (hcopied x hx) (hcopied y hy)

/-- Parts that go in one after the other go in for one of the realisations. -/
theorem puts {r : RealmRef} {ps : List (Part φ)} {later earlier : List (Realisation φ)}
    {x : Realisation φ} (hputs : Puts r w ps w') (hrealm : x.realm = r)
    (h : Realisations (later ++ x :: earlier) w)
    (hasked : (x.parts ++ ps).map Part.asked <+: x.handed.pieces) :
    Realisations (later ++ { x with parts := x.parts ++ ps } :: earlier) w' := by
  induction hputs generalizing x with
  | done hl =>
      rw [List.append_nil]
      exact h.meanwhile hl
  | @next w m m' w' p ps hl hp _ ih =>
      subst hrealm
      have hassoc : x.parts ++ p :: ps = (x.given p).parts ++ ps := by
        show x.parts ++ p :: ps = (x.parts ++ [p]) ++ ps
        rw [List.append_assoc, List.singleton_append]
      rw [hassoc] at hasked ⊢
      refine ih (x := x.given p) rfl ((h.meanwhile hl).gives hp ?_) hasked
      rw [List.map_append] at hasked
      exact (List.prefix_append _ _).trans hasked

/-- Whatever a host hands over, the history goes on with its realisation. -/
theorem enter {d d' : Dispatcher φ σ}
    (A : Regime.roaming.Answers .any (.all : Knowledge φ γ σ) d d') (h : Realisations l w)
    (a : Handed φ) {r : RealmRef} {stack : Script.Stack}
    (hw : w.Sound .any (.all : Knowledge φ γ σ))
    (hr : r < w.realms.size) (hown : ∀ o ∈ a.own r, o < (w.heap r).size)
    (hfew : (a.enter ⟨d, r, r, stack⟩ w).1.realms.size < 2 ^ 32) :
    Realisations (⟨r, a, (w.heap r).size, a.parts ⟨d, r, r, stack⟩ w⟩ :: l)
      (a.enter ⟨d, r, r, stack⟩ w).1 := by
  have hrealises := a.enter_realises A hw hr hfew
  have hbegun : Realisations ([] ++ ⟨r, a, (w.heap r).size, []⟩ :: l) w := h.begins r a hr hown
  exact hbegun.puts hrealises.puts rfl hrealises.begins

end Realisations

/-! ## Writes -/

/-- A heap gets later, and of what was there only objects of a list change. -/
structure Script.Heap.Writes (h : Heap) (S : List ObjectRef) (h' : Heap) : Prop where
  later : h.Later h'
  same (o : ObjectRef) : o < h.size → o ∉ S → h'.object o = h.object o

/-- To assign to what was made for a realisation is to write to it, if no setter of a script is
in the way. -/
theorem Realisation.Copied.assign {x : Realisation φ} {w : World φ σ} (hx : x.Copied w)
    {o : ObjectRef} (ho : o ∈ x.made) {k : Script.Key}
    (hcalm : (w.heap x.realm).CalmAt o k) (stack : Script.Stack) (v : Val) :
    ∃ h outcome, Script.setProperty (Machine.evaluator stack) (.object o) k v (w.heap x.realm) =
      .finished h outcome ∧ (w.heap x.realm).Writes x.made h := by
  obtain ⟨h, outcome, hrun, hassigns⟩ :=
    Script.setProperty_assigns (hx.isArray_made ho) hcalm (LawfulMachine.sets stack) v
  refine ⟨h, outcome, hrun, hassigns.later, fun s hs hother => ?_⟩
  exact hassigns.object_eq hs fun heq => hother (heq ▸ ho)

/-- Writes to a realisation are not seen in what is made after it. -/
theorem Realisation.Copied.keepsFrom {x : Realisation φ} {w w' : World φ σ} (hx : x.Copied w)
    (hg : Grows w w') {h : Heap} (hwrites : (w'.heap x.realm).Writes x.made h) {r : RealmRef}
    (hr : r < w'.realms.size) :
    KeepsFrom r (w.heap r).size w' (w'.setHeap x.realm h) := by
  have hx' : x.realm < w'.realms.size := Nat.lt_of_lt_of_le hx.realm hg.size_le
  have hset : w'.Later (w'.setHeap x.realm h) := .setHeap hx' hwrites.later
  refine ⟨hset.toGrows, hr, (hset.heaps r).size_le, fun o hnew ho => ?_⟩
  by_cases hrealm : x.realm = r
  · subst hrealm
    rw [w'.heap_setHeap_self hx']
    refine hwrites.same o ho fun hmade => ?_
    exact Nat.lt_irrefl o (Nat.lt_of_lt_of_le (hx.new o hmade).2 hnew)
  · rw [w'.heap_setHeap_ne hrealm]

namespace Realisations

variable {l : List (Realisation φ)} {w w' : World φ σ}

/-- What is written to one realisation leaves the others as they are, whichever was first. -/
theorem kept (h : Realisations l w) {x y : Realisation φ} (hx : x ∈ l) (hy : y ∈ l)
    (hne : y ≠ x) {heap : Heap} (hwrites : (w.heap x.realm).Writes x.made heap) :
    y.Kept w (w.setHeap x.realm heap) := by
  obtain ⟨hcopied, hpairs⟩ := h.apart
  intro o ho
  by_cases hrealm : x.realm = y.realm
  · have hapart : y.Apart x := (hpairs.imp Realisation.After.apart).forall hy hx hne
    have hlt := (hcopied y hy).new o ho
    rw [← hrealm] at hlt ⊢
    rw [w.heap_setHeap_self (hcopied x hx).realm]
    exact hwrites.same o hlt.2 (hapart hrealm.symm o ho)
  · rw [w.heap_setHeap_ne hrealm]

/-- The realisations are copies, and what a script writes to what was made for one of them is not
seen in any other.  An assignment is such a write. -/
structure Copies (l : List (Realisation φ)) (w : World φ σ) : Prop where
  copied : ∀ x ∈ l, x.Copied w
  separate : l.Pairwise fun x y => x.realm = y.realm → x.Separate y
  kept : ∀ x ∈ l, ∀ y ∈ l, y ≠ x → ∀ heap, (w.heap x.realm).Writes x.made heap →
    y.Kept w (w.setHeap x.realm heap)
  assigned : ∀ x ∈ l, ∀ o ∈ x.made, ∀ k, (w.heap x.realm).CalmAt o k → ∀ stack v,
    ∃ heap outcome, Script.setProperty (Machine.evaluator stack) (.object o) k v (w.heap x.realm) =
      .finished heap outcome ∧ (w.heap x.realm).Writes x.made heap

theorem copies (h : Realisations l w) : Copies l w where
  copied := h.apart.1
  separate := h.separate
  kept _ hx _ hy hne _ hwrites := h.kept hx hy hne hwrites
  assigned x hx _ ho _ hcalm stack v := (h.apart.1 x hx).assign ho hcalm stack v

end Realisations

/-! ## What comes next -/

/-- The realisation of what is handed over. -/
def Crossing.realisation (c : Crossing φ σ) (a : Handed φ) (w : World φ σ) : Realisation φ :=
  ⟨c.realm, a, (w.heap c.realm).size, a.parts c w⟩

@[simp] theorem Crossing.realm_realisation (c : Crossing φ σ) (a : Handed φ) (w : World φ σ) :
    (c.realisation a w).realm = c.realm := rfl

@[simp] theorem Crossing.handed_realisation (c : Crossing φ σ) (a : Handed φ) (w : World φ σ) :
    (c.realisation a w).handed = a := rfl

/-- What is handed over has a realisation of its own, which is a copy like those before it.  If
the conversion returns, everything is in it, and its first part is what scripts get. -/
structure Crossing.Adds (γ : Type) (c : Crossing φ σ) (l : List (Realisation φ))
    (w : World φ σ) (a : Handed φ) : Prop where
  realised : Realisations (c.realisation a w :: l) (a.enter c w).1
  copies : Realisations.Copies (c.realisation a w :: l) (a.enter c w).1
  sound : (a.enter c w).1.Sound .any (.all : Knowledge φ γ σ)
  complete (x : Val) : (a.enter c w).2 = .ok x → (c.realisation a w).Complete
  result (v : Value φ) (x : Val) : a = .value v → (a.enter c w).2 = .ok x →
    ∃ p ∈ (c.realisation a w).parts, p.place = [] ∧ p.value = x

/-- Whatever happens next, the realisations stay copies, and so is whatever is handed over. -/
structure Realisations.GoesOn (host : Host φ γ σ) (l : List (Realisation φ)) (w : World φ σ) :
    Prop where
  /-- Hosts and scripts do anything else. -/
  meanwhile (w' : World φ σ) : host.Goes w w' → w'.realms.size < 2 ^ 32 →
    Realisations l w' ∧ w'.Sound .any (.all : Knowledge φ γ σ)
  /-- Something is handed to a realm. -/
  enters (n : Nat) (stack : Script.Stack) (r : RealmRef) (a : Handed φ) : r < w.realms.size →
    (∀ o ∈ a.own r, o < (w.heap r).size) →
    (a.enter ⟨dispatcher host n, r, r, stack⟩ w).1.realms.size < 2 ^ 32 →
    Crossing.Adds γ ⟨dispatcher host n, r, r, stack⟩ l w a
  /-- Where names can be assigned, a value goes in unless the engine has no memory for it, and
  shows everything that it exports, whatever is written to earlier realisations afterwards. -/
  shows (d : Dispatcher φ σ) (stack : Script.Stack) (r : RealmRef) (v : Value φ) (G : Ground) :
    Site G r w → (∀ name ∈ v.exportNames, G.Free name) →
    (G.sure → (∃ x, (v.extract ⟨d, r, r, stack⟩ w).2 = .ok x) ∨
      ∃ w' e, v.extract ⟨d, r, r, stack⟩ w = (w', .error e) ∧
        w.Declines r stack v.largest w' e) ∧
    ∀ w' x, v.extract ⟨d, r, r, stack⟩ w = (w', .ok x) → v.Realised w' r (w.heap r).size x ∧
      ∀ y ∈ l, ∀ heap, (w'.heap y.realm).Writes y.made heap →
        v.Realised (w'.setHeap y.realm heap) r (w.heap r).size x
  /-- Another run has a realm of its own, which shows everything that was exported into it. -/
  runs (d : Dispatcher φ σ) (left : Script.Stack) (config : EngineConfig) (n : Namespace φ)
    (r : RealmRef) : w.realms.size + 1 < 2 ^ 32 → (createRealm d left config n w).2 = .ok r →
    (∀ x ∈ l, x.realm ≠ r) ∧
      n.Realised (createRealm d left config n w).1 r Heap.standard.size Script.Place.global

theorem Realisations.goesOn (host : Host φ γ σ) {l : List (Realisation φ)} {w : World φ σ}
    (h : Realisations l w) (hw : w.Sound .any (.all : Knowledge φ γ σ)) : GoesOn host l w where
  meanwhile w' hgoes hfew := by
    obtain ⟨hlater, hsound⟩ := hgoes.later hw hfew
    exact ⟨h.meanwhile hlater, hsound⟩
  enters n stack r a hr hown hfew := by
    have A := roaming_any host n
    have henter := h.enter A a hw hr hown hfew
    refine ⟨henter, henter.copies, a.enter_sound A hw hr hfew, ?_, ?_⟩
    · intro x hx
      exact (a.enter_realises A hw hr hfew).all x hx
    · intro v x hv hx
      subst hv
      exact v.parts_result _ [] hx
  shows d stack r v G hs hfree := by
    have hbuilds := extract_builds stack v hfree hs
    have hlays := hbuilds.lays d
    refine ⟨fun hsure => ?_, fun w' x hx => ?_⟩
    · exact (hbuilds.returns hsure d).imp (fun ⟨x, hx, _⟩ => ⟨x, hx⟩) fun ⟨he, hrefuses⟩ =>
        ⟨_, _, Prod.ext rfl he, rfl, hlays.memory_eq, hrefuses⟩
    have hlaw := hbuilds.law d x (congrArg Prod.snd hx)
    rw [hx] at hlaw hlays
    refine ⟨hlaw, fun y hy heap hwrites => ?_⟩
    have hkeeps := (h.apart.1 y hy).keepsFrom hlays.grows hwrites (hs.after hlays).made
    exact hlaw.keep hkeeps (Nat.le_refl _)
  runs d left config n r hfew hmade := by
    obtain ⟨rfl, hexposes⟩ := createRealm_exposes hw.numbered hw.live hfew hmade
    refine ⟨fun x hx => ?_, hexposes.realised⟩
    exact Nat.ne_of_lt (h.apart.1 x hx).realm

/-- Whatever is handed to scripts, and whatever they do in between, each time it is a copy: what
was made for it is in no other realisation in the realm, all that two of them can share are
functions of the realm, writes to one are not seen through another, and the next one shows
everything again. -/
theorem realisations_are_copies (host : Host φ γ σ) {l : List (Realisation φ)} {w : World φ σ}
    (h : Realisations l w) :
    Realisations.Copies l w ∧
      (w.Sound .any (.all : Knowledge φ γ σ) → Realisations.GoesOn host l w) :=
  ⟨h.copies, h.goesOn host⟩

/-- An object with a callback in it and a function of the realm, for the global object. -/
def sharing : Handed Unit :=
  .exports (.entry "shared" (.nested
    (.entry "inner" (.nested (.entry "back" (.callback ()) .empty))
      (.entry "same" (.value (.function 8 (.captured 0 143))) .empty))) .empty) Script.Place.global

/-- How it crosses into the realm with the relaying callback. -/
def sharingCrossing : Crossing Unit Unit := ⟨dispatcher relayingHost 1, 0, 0, (Machine.stack {})⟩

/-- A script keeps the first realisation, and writes to it and to the function. -/
def writtenWorld : World Unit Unit :=
  (relayingHost.execute 0 "var first = shared; first.inner = 7; first.same.x = 8; first.inner"
    (sharing.enter sharingCrossing relayingWorld).1).1

theorem realisations_are_copies_relayingHost :
    Realisations [sharingCrossing.realisation sharing writtenWorld,
        sharingCrossing.realisation sharing relayingWorld]
      (sharing.enter sharingCrossing writtenWorld).1 ∧
      (sharingCrossing.realisation sharing writtenWorld).own = [143] ∧
      ∀ o, o ∈ (sharingCrossing.realisation sharing writtenWorld).objects ∧
        o ∈ (sharingCrossing.realisation sharing relayingWorld).objects ↔ o = 143 := by
  obtain ⟨⟨hsmall, hr, hown⟩, ⟨hfew, hok⟩, ⟨hsmall', hr', hown'⟩, ⟨hfew', hok'⟩, hone⟩ :
      (relayingWorld.realms.size < 2 ^ 32 ∧ 0 < relayingWorld.realms.size ∧
        ∀ o ∈ sharing.own 0, o < (relayingWorld.heap 0).size) ∧
      ((sharing.enter sharingCrossing relayingWorld).1.realms.size < 2 ^ 32 ∧
        (sharing.enter sharingCrossing relayingWorld).2 = .ok (.object Script.Place.global)) ∧
      (writtenWorld.realms.size < 2 ^ 32 ∧ 0 < writtenWorld.realms.size ∧
        ∀ o ∈ sharing.own 0, o < (writtenWorld.heap 0).size) ∧
      ((sharing.enter sharingCrossing writtenWorld).1.realms.size < 2 ^ 32 ∧
        (sharing.enter sharingCrossing writtenWorld).2 = .ok (.object Script.Place.global)) ∧
      (sharingCrossing.realisation sharing writtenWorld).own = [143] := by
    decide +kernel
  have hreaches : relayingHost.Reaches relayingWorld := by
    unfold relayingWorld
    exact .createRealm {} _ (.start ())
  have hsound : relayingWorld.Sound .any (.all : Knowledge Unit Unit Unit) :=
    hreaches.sound_of_few hsmall
  have hadds {l : List (Realisation Unit)} {w : World Unit Unit} (h : Realisations l w)
      (hw : w.Sound .any (.all : Knowledge Unit Unit Unit)) (hr : 0 < w.realms.size)
      (hown : ∀ o ∈ sharing.own 0, o < (w.heap 0).size)
      (hfew : (sharing.enter sharingCrossing w).1.realms.size < 2 ^ 32) :
      sharingCrossing.Adds Unit l w sharing := by
    unfold sharingCrossing at hfew ⊢
    exact ((realisations_are_copies relayingHost h).2 hw).enters 1 (Machine.stack {}) 0 sharing hr
      hown hfew
  have hfirst := hadds (.start relayingWorld) hsound hr hown hfew
  have hacts : relayingHost.Acts (sharing.enter sharingCrossing relayingWorld).1
      writtenWorld := by
    unfold writtenWorld
    exact .execute 0 _ _
  obtain ⟨hwritten, hsound'⟩ :=
    ((realisations_are_copies relayingHost hfirst.realised).2 hfirst.sound).meanwhile writtenWorld
      (.single hacts) hsmall'
  have hsecond := hadds hwritten hsound' hr' hown' hfew'
  have hseparate := (List.pairwise_cons.mp hsecond.copies.separate).1 _
    (List.mem_singleton_self _) (by simp only [Crossing.realm_realisation])
  have hshared := hseparate.same (by simp only [Crossing.handed_realisation])
    (hsecond.complete _ hok') (hfirst.complete _ hok)
  refine ⟨hsecond.realised, hone, fun o => ?_⟩
  rw [hshared o, hone, List.mem_singleton]

end ScriptHost
