import Mathlib
import ScriptHost.World.Basic

/-!
# Guards that are dropped in any order

Entering a realm makes it the innermost active one and hands out a guard; dropping the guard
takes the realm off again.  A guard remembers one number, the depth of the stack that it was
handed out on, and dropping it takes off whatever lies at that depth or above.

As long as the guard that was handed out last is dropped first this is a stack.  In any other
order a guard takes the entries above its own with it, and their guards are *spent*: they are
still there, and have nothing left to take off.  Entries that are made later can come to lie at
the depths that spent guards remember.

`Guarded` keeps count of what guards do not remember: whose each entry is, and which guards are
left.  An entry belongs to the guard that was handed out with it, and the guards are told apart
by their turns.

* Nothing leaks: the owner of every entry is there and remembers its place, so no entry outlives
  all guards.
* A spent guard is not always inert: `spent_guard_acts`.  It is if no realm was entered while
  there was one.
-/

namespace ScriptHost

variable {φ σ : Type}

/-! ## Keeping count -/

/-- An entry of the active stack, and the turn of the guard that was handed out with it. -/
structure Entry where
  realm : RealmRef
  turn : Nat
  deriving DecidableEq

/-- A guard that was handed out. -/
structure Ticket where
  /-- How many guards were handed out before it. -/
  turn : Nat
  guard : World.Guard
  /-- The stack that it was handed out on. -/
  saw : List RealmRef
  deriving DecidableEq

/-- A world in which the entries of the active stack and the guards are kept count of. -/
structure Guarded (φ σ : Type) where
  world : World φ σ
  /-- The entries of the stack, the outermost first. -/
  entries : List Entry
  /-- The guards that have not been dropped, the newest first. -/
  alive : List Ticket
  /-- How many guards were handed out. -/
  turns : Nat

/-- The active stack of some entries. -/
def stackOf (entries : List Entry) : List RealmRef := (entries.map (·.realm)).reverse

namespace Guarded

/-- Enters a realm. -/
def enter (g : Guarded φ σ) (r : RealmRef) : Guarded φ σ where
  world := (g.world.enter r).2
  entries := g.entries ++ [⟨r, g.turns⟩]
  alive := ⟨g.turns, (g.world.enter r).1, g.world.active⟩ :: g.alive
  turns := g.turns + 1

/-- Drops a guard. -/
def drop (g : Guarded φ σ) (t : Ticket) : Guarded φ σ :=
  { g with
    world := g.world.leave t.guard
    entries := g.entries.take t.guard.depth
    alive := g.alive.filter fun s => s.turn ≠ t.turn }

theorem getElem?_entries_drop (g : Guarded φ σ) (t : Ticket) (i : Nat) :
    (g.drop t).entries[i]? = if i < t.guard.depth then g.entries[i]? else none :=
  List.getElem?_take

/-- The entry of a guard is not on the stack anymore. -/
def Spent (g : Guarded φ σ) (t : Ticket) : Prop := ∀ e ∈ g.entries, e.turn ≠ t.turn

instance (g : Guarded φ σ) (t : Ticket) : Decidable (g.Spent t) :=
  inferInstanceAs (Decidable (∀ e ∈ g.entries, e.turn ≠ t.turn))

/-- Which realms may be entered and which guards may be dropped. -/
structure Discipline (φ σ : Type) where
  enters : Guarded φ σ → Prop
  drops : Guarded φ σ → Ticket → Prop

/-- Guards are dropped in any order. -/
def Discipline.any : Discipline φ σ := ⟨fun _ => True, fun _ _ => True⟩

/-- The guard that was handed out last is dropped first. -/
def Discipline.lastFirst : Discipline φ σ := ⟨fun _ => True, fun g t => g.alive.head? = some t⟩

/-- Guards are dropped in any order, and no realm is entered while there is a spent one. -/
def Discipline.settled : Discipline φ σ :=
  ⟨fun g => ∀ t ∈ g.alive, ¬g.Spent t, fun _ _ => True⟩

/-- What entering realms and dropping guards can come to.  No guard is dropped twice, and
whatever else happens in between leaves the active stack as it is. -/
inductive Reaches (D : Discipline φ σ) : Guarded φ σ → Prop
  | start (w : World φ σ) : w.active = [] → Reaches D ⟨w, [], [], 0⟩
  | enter {g : Guarded φ σ} (r : RealmRef) : Reaches D g → D.enters g → Reaches D (g.enter r)
  | drop {g : Guarded φ σ} {t : Ticket} :
      Reaches D g → t ∈ g.alive → D.drops g t → Reaches D (g.drop t)
  | elsewhere {g : Guarded φ σ} (w : World φ σ) :
      Reaches D g → w.active = g.world.active → Reaches D { g with world := w }

/-! ## Taking off the top of a stack -/

theorem stackOf_append_singleton (entries : List Entry) (e : Entry) :
    stackOf (entries ++ [e]) = e.realm :: stackOf entries := by
  simp only [stackOf, List.map_append, List.map_cons, List.map_nil, List.reverse_append,
    List.reverse_cons, List.reverse_nil, List.nil_append, List.singleton_append]

@[simp] theorem length_stackOf (entries : List Entry) :
    (stackOf entries).length = entries.length := by
  simp only [stackOf, List.length_reverse, List.length_map]

theorem bottom_stackOf (n : Nat) (entries : List Entry) :
    World.bottom n (stackOf entries) = stackOf (entries.take n) := by
  unfold World.bottom stackOf
  rw [List.drop_reverse, List.map_take, List.length_reverse]
  congr 1
  rcases Nat.le_total n (entries.map (·.realm)).length with hle | hle
  · rw [Nat.sub_sub_self hle]
  · rw [Nat.sub_eq_zero_of_le hle, Nat.sub_zero, List.take_length, List.take_of_length_le hle]

/-! ## Whose an entry is -/

/-- A guard owns the entry at a place: it was handed out with it, on the stack of the entries
below it. -/
structure Owns (entries : List Entry) (t : Ticket) (i : Nat) (e : Entry) : Prop where
  turn : t.turn = e.turn
  depth : t.guard.depth = i
  saw : t.saw = stackOf (entries.take i)

/-- The stack and the guards belong together. -/
structure Tidy (g : Guarded φ σ) : Prop where
  stack : g.world.active = stackOf g.entries
  /-- Every entry has an owner. -/
  owner (i : Nat) (e : Entry) : g.entries[i]? = some e → ∃ t ∈ g.alive, Owns g.entries t i e
  /-- What lies at the depth of a guard or above was not made before the guard. -/
  later (t : Ticket) : t ∈ g.alive → ∀ (i : Nat) (e : Entry), t.guard.depth ≤ i →
    g.entries[i]? = some e → t.turn ≤ e.turn
  made (t : Ticket) : t ∈ g.alive → t.turn < g.turns
  /-- The guards are in order, and no two have one turn. -/
  newestFirst : g.alive.Pairwise fun s t => t.turn < s.turn

variable {D : Discipline φ σ} {g : Guarded φ σ} {t : Ticket}

theorem Tidy.eq_of_turn_eq (h : g.Tidy) {s : Ticket} (hs : s ∈ g.alive) (ht : t ∈ g.alive)
    (hturn : s.turn = t.turn) : s = t := by
  have hnodup : (g.alive.map (·.turn)).Nodup :=
    List.pairwise_map.mpr (h.newestFirst.imp fun hlt => (Nat.ne_of_lt hlt).symm)
  exact List.inj_on_of_nodup_map hnodup hs ht hturn

theorem Tidy.start {w : World φ σ} (hw : w.active = []) :
    (⟨w, [], [], 0⟩ : Guarded φ σ).Tidy where
  stack := hw
  owner _ _ he := nomatch he
  later _ ht := absurd ht List.not_mem_nil
  made _ ht := absurd ht List.not_mem_nil
  newestFirst := .nil

/-- The new entry lies on top of all others, and its guard comes after all others. -/
theorem Tidy.enter (h : g.Tidy) (r : RealmRef) : (g.enter r).Tidy := by
  have hdepth : g.world.active.length = g.entries.length := by rw [h.stack, length_stackOf]
  have hentry {i : Nat} {e : Entry} (he : (g.entries ++ [⟨r, g.turns⟩])[i]? = some e) :
      g.entries[i]? = some e ∨ i = g.entries.length ∧ e = ⟨r, g.turns⟩ := by
    rw [List.getElem?_append] at he
    split at he
    · exact .inl he
    · rw [List.getElem?_singleton] at he
      split at he
      · exact .inr ⟨by omega, (Option.some.inj he).symm⟩
      · cases he
  refine ⟨?_, fun i e he => ?_, fun t ht i e hi he => ?_, fun t ht => ?_, ?_⟩
  · change r :: g.world.active = stackOf (g.entries ++ [⟨r, g.turns⟩])
    rw [stackOf_append_singleton, h.stack]
  · rcases hentry he with hold | ⟨rfl, rfl⟩
    · obtain ⟨t, ht, howns⟩ := h.owner i e hold
      have hi : i ≤ g.entries.length := Nat.le_of_lt (List.getElem?_eq_some_iff.mp hold).1
      refine ⟨t, List.mem_cons_of_mem _ ht, howns.turn, howns.depth, ?_⟩
      change t.saw = stackOf ((g.entries ++ _).take i)
      rw [List.take_append_of_le_length hi, howns.saw]
    · refine ⟨_, List.mem_cons_self, rfl, hdepth, ?_⟩
      change g.world.active = stackOf ((g.entries ++ _).take _)
      rw [List.take_left, h.stack]
  · rcases List.mem_cons.mp ht with rfl | ht
    · rcases hentry he with hold | ⟨rfl, rfl⟩
      · -- The new guard remembers a depth above every older entry.
        have hlt := (List.getElem?_eq_some_iff.mp hold).1
        change g.world.active.length ≤ i at hi
        omega
      · exact Nat.le_refl _
    · rcases hentry he with hold | ⟨rfl, rfl⟩
      · exact h.later t ht i e hi hold
      · exact Nat.le_of_lt (h.made t ht)
  · rcases List.mem_cons.mp ht with rfl | ht
    · exact Nat.lt_succ_self _
    · exact Nat.lt_succ_of_lt (h.made t ht)
  · exact .cons (fun t ht => h.made t ht) h.newestFirst

/-- What is left lies below the guard, so it belongs to other guards. -/
theorem Tidy.drop (h : g.Tidy) (ht : t ∈ g.alive) : (g.drop t).Tidy := by
  have hentry {i : Nat} {e : Entry} (he : (g.drop t).entries[i]? = some e) :
      i < t.guard.depth ∧ g.entries[i]? = some e := by
    rw [getElem?_entries_drop] at he
    split at he
    · exact ⟨‹_›, he⟩
    · cases he
  have halive {s : Ticket} (hs : s ∈ (g.drop t).alive) : s ∈ g.alive := List.mem_of_mem_filter hs
  refine ⟨?_, fun i e he => ?_, fun s hs i e hi he => ?_, fun s hs => h.made s (halive hs),
    h.newestFirst.filter _⟩
  · change World.bottom t.guard.depth g.world.active = stackOf (g.entries.take t.guard.depth)
    rw [h.stack, bottom_stackOf]
  · obtain ⟨hi, hold⟩ := hentry he
    obtain ⟨s, hs, howns⟩ := h.owner i e hold
    -- an entry that is left lies below the guard that is dropped, so its own guard is another one
    have hother : s.turn ≠ t.turn := by
      intro hturn
      have hdepth := howns.depth
      rw [h.eq_of_turn_eq hs ht hturn] at hdepth
      omega
    refine ⟨s, List.mem_filter.mpr ⟨hs, decide_eq_true hother⟩, howns.turn, howns.depth, ?_⟩
    change s.saw = stackOf ((g.entries.take _).take i)
    rw [List.take_take, Nat.min_eq_left (Nat.le_of_lt hi), howns.saw]
  · exact h.later s (halive hs) i e hi (hentry he).2

theorem Tidy.elsewhere (h : g.Tidy) {w : World φ σ} (hw : w.active = g.world.active) :
    Tidy { g with world := w } where
  stack := hw.trans h.stack
  owner := h.owner
  later := h.later
  made := h.made
  newestFirst := h.newestFirst

theorem Reaches.tidy (h : g.Reaches D) : g.Tidy := by
  induction h with
  | start w hw => exact .start hw
  | enter r _ _ ih => exact ih.enter r
  | drop _ ht _ ih => exact ih.drop ht
  | elsewhere w _ hw ih => exact ih.elsewhere hw

/-! ## Guards that have something to take off -/

/-- A guard whose entry is on the stack owns it. -/
theorem Tidy.owns_of_not_spent (h : g.Tidy) (ht : t ∈ g.alive) (hs : ¬g.Spent t) :
    ∃ e, g.entries[t.guard.depth]? = some e ∧ Owns g.entries t t.guard.depth e := by
  unfold Spent at hs
  push Not at hs
  obtain ⟨e, he, hturn⟩ := hs
  obtain ⟨i, hi⟩ := List.mem_iff_getElem?.mp he
  obtain ⟨s, hs, howns⟩ := h.owner i e hi
  obtain rfl : s = t := h.eq_of_turn_eq hs ht (howns.turn.trans hturn)
  obtain rfl := howns.depth
  exact ⟨e, hi, howns⟩

/-- Dropping such a guard gives the stack back that it was handed out on. -/
theorem Tidy.restores (h : g.Tidy) (ht : t ∈ g.alive) (hs : ¬g.Spent t) :
    (g.drop t).world.active = t.saw := by
  obtain ⟨e, -, howns⟩ := h.owns_of_not_spent ht hs
  rw [(h.drop ht).stack, howns.saw]
  rfl

/-- Entering a realm takes nothing off. -/
theorem not_spent_enter (h : ∀ t ∈ g.alive, ¬g.Spent t) (r : RealmRef) :
    ∀ t ∈ (g.enter r).alive, ¬(g.enter r).Spent t := by
  intro t ht hspent
  rcases List.mem_cons.mp ht with rfl | ht
  · exact hspent _ List.mem_concat_self rfl
  · exact h t ht fun e he => hspent e (List.mem_append_left _ he)

/-- If the last guard is dropped first, no guard is ever spent: the entry of an older guard lies
below that of the newest one. -/
theorem Reaches.not_spent (h : g.Reaches .lastFirst) : ∀ t ∈ g.alive, ¬g.Spent t := by
  induction h with
  | start w hw => exact fun t ht => absurd ht List.not_mem_nil
  | enter r _ _ ih => exact not_spent_enter ih r
  | elsewhere w _ hw ih => exact ih
  | @drop g t hg ht hlast ih =>
      intro s hs hspent
      obtain ⟨hs, hother⟩ := List.mem_filter.mp hs
      obtain ⟨e, he, howns⟩ := hg.tidy.owns_of_not_spent hs (ih s hs)
      -- guards stand newest first, so every other guard is older than the first
      have holder : s.turn < t.turn := by
        obtain ⟨rest, hrest⟩ := List.head?_eq_some_iff.mp hlast
        have hnewest := hg.tidy.newestFirst
        rw [hrest] at hs hnewest
        rcases List.mem_cons.mp hs with rfl | hs
        · exact absurd rfl (of_decide_eq_true hother)
        · exact (List.pairwise_cons.mp hnewest).1 s hs
      -- the entry of the older guard can only lie below the newest guard, and there dropping the
      -- newest does not reach
      have hbelow : s.guard.depth < t.guard.depth := by
        by_contra hnot
        have hle := hg.tidy.later t ht _ e (Nat.le_of_not_lt hnot) he
        have hturn := howns.turn
        omega
      refine hspent e (List.mem_of_getElem? (i := s.guard.depth) ?_) howns.turn.symm
      rw [getElem?_entries_drop, if_pos hbelow, he]

/-! ## Dropping in any order -/

/-- What dropping a guard takes off: everything from its depth on, and nothing else. -/
structure TakesOff (g : Guarded φ σ) (t : Ticket) : Prop where
  below (i : Nat) : i < t.guard.depth →
    (g.drop t).world.active.reverse[i]? = g.world.active.reverse[i]?
  above (i : Nat) : t.guard.depth ≤ i → (g.drop t).world.active.reverse[i]? = none
  /-- None of it was made before the guard. -/
  later (i : Nat) (e : Entry) : t.guard.depth ≤ i → g.entries[i]? = some e → t.turn ≤ e.turn

theorem reverse_stackOf (entries : List Entry) :
    (stackOf entries).reverse = entries.map (·.realm) := List.reverse_reverse _

theorem Tidy.takesOff (h : g.Tidy) (ht : t ∈ g.alive) : g.TakesOff t := by
  have hafter : (g.drop t).world.active = stackOf (g.entries.take t.guard.depth) :=
    (h.drop ht).stack
  refine ⟨fun i hi => ?_, fun i hi => ?_, h.later t ht⟩
  · rw [hafter, h.stack, reverse_stackOf, reverse_stackOf, List.map_take,
      List.getElem?_take_of_lt hi]
  · rw [hafter, reverse_stackOf, List.map_take, List.getElem?_take_eq_none hi]

/-- In whatever order guards are dropped, every entry of the active stack belongs to a guard that
is still there, which remembers the place of the entry.  Dropping a guard takes off what lies at
its depth and above, none of which was made before the guard, and leaves the rest alone.  So the
stack is empty once all guards are gone; and if the last guard is always dropped first, dropping
it gives the stack back that it was handed out on. -/
theorem guards_leak_nothing (h : g.Reaches .any) :
    (g.world.active = stackOf g.entries ∧
      ∀ i e, g.entries[i]? = some e → ∃ t ∈ g.alive, t.turn = e.turn ∧ t.guard.depth = i) ∧
    (∀ t ∈ g.alive, g.TakesOff t) ∧
    (g.alive = [] → g.world.active = []) ∧
    (g.Reaches .lastFirst → ∀ t, g.alive.head? = some t → (g.drop t).world.active = t.saw) := by
  have htidy := h.tidy
  refine ⟨⟨htidy.stack, fun i e he => ?_⟩, fun t ht => htidy.takesOff ht, fun hnone => ?_,
    fun hlast t ht => ?_⟩
  · obtain ⟨t, ht, howns⟩ := htidy.owner i e he
    exact ⟨t, ht, howns.turn, howns.depth⟩
  · have hempty : g.entries = [] := by
      cases hentries : g.entries with
      | nil => rfl
      | cons e rest =>
          obtain ⟨t, ht, -⟩ := htidy.owner 0 e (by rw [hentries]; rfl)
          rw [hnone] at ht
          exact absurd ht List.not_mem_nil
    rw [htidy.stack, hempty]
    rfl
  · have halive := List.mem_of_head? ht
    exact htidy.restores halive (hlast.not_spent t halive)

/-- A world with four realms. -/
def fourRealms : World Unit Unit :=
  let realm (w : World Unit Unit) := (w.addRealm "test" (.text "state") default).2
  realm (realm (realm (realm (.start ()))))

/-- Two realms are entered and the outer one is left; then two more are entered. -/
def crossed : Guarded Unit Unit :=
  ((((⟨fourRealms, [], [], 0⟩ : Guarded Unit Unit).enter 0).enter 1).drop ⟨0, ⟨0⟩, []⟩).enter 2
    |>.enter 3

/-- The guard of the second realm. -/
def spentTicket : Ticket := ⟨1, ⟨1⟩, [0]⟩

private theorem crossed_reaches : crossed.Reaches .any :=
  .enter 3 (.enter 2 (.drop (.enter 1 (.enter 0 (.start fourRealms rfl) trivial) trivial)
    (by decide) trivial) trivial) trivial

theorem guards_leak_nothing_crossed :
    crossed.Reaches .any ∧ crossed.alive.length = 3 ∧ crossed.TakesOff spentTicket := by
  obtain ⟨-, htakes, -⟩ := guards_leak_nothing crossed_reaches
  exact ⟨crossed_reaches, by decide, htakes spentTicket (by decide)⟩

/-! ## Spent guards -/

/-- An entry leaves the stack when a guard is dropped. -/
def Loses (g : Guarded φ σ) (t : Ticket) (i : Nat) : Prop := (g.drop t).entries[i]? = none

/-- A guard is that of an entry on the stack, at a place or below it. -/
def Covers (g : Guarded φ σ) (t : Ticket) (i : Nat) : Prop :=
  ∃ j ≤ i, ∃ e, g.entries[j]? = some e ∧ e.turn = t.turn

theorem loses_iff {i : Nat} {e : Entry} (he : g.entries[i]? = some e) :
    g.Loses t i ↔ t.guard.depth ≤ i := by
  unfold Loses
  rw [getElem?_entries_drop]
  split
  · simp only [he, reduceCtorEq, false_iff]
    omega
  · simp only [true_iff]
    omega

theorem Tidy.covers_iff (h : g.Tidy) (ht : t ∈ g.alive) (i : Nat) :
    g.Covers t i ↔ ¬g.Spent t ∧ t.guard.depth ≤ i := by
  refine ⟨fun ⟨j, hj, e, he, hturn⟩ => ?_, fun ⟨hs, hi⟩ => ?_⟩
  · obtain ⟨s, hs, howns⟩ := h.owner j e he
    obtain rfl : s = t := h.eq_of_turn_eq hs ht (howns.turn.trans hturn)
    exact ⟨fun hspent => hspent e (List.mem_of_getElem? he) hturn, howns.depth ▸ hj⟩
  · obtain ⟨e, he, howns⟩ := h.owns_of_not_spent ht hs
    exact ⟨_, hi, e, he, howns.turn.symm⟩

theorem Tidy.active_drop_iff (h : g.Tidy) (ht : t ∈ g.alive) :
    (g.drop t).world.active = g.world.active ↔ g.world.depth ≤ t.guard.depth := by
  have hdepth : g.world.depth = g.entries.length := by
    rw [World.depth, h.stack, length_stackOf]
  have hafter : (g.drop t).world.active = stackOf (g.entries.take t.guard.depth) :=
    (h.drop ht).stack
  rw [hafter, h.stack, hdepth]
  refine ⟨fun heq => ?_, fun hle => by rw [List.take_of_length_le hle]⟩
  have hlength := congrArg List.length heq
  rw [length_stackOf, length_stackOf, List.length_take] at hlength
  omega

/-- If no realm is entered while a guard is spent, no entry comes to lie at the depth of a spent
guard again. -/
theorem Reaches.depth_le_of_spent (h : g.Reaches .settled) :
    ∀ t ∈ g.alive, g.Spent t → g.entries.length ≤ t.guard.depth := by
  induction h with
  | start w hw => exact fun t ht => absurd ht List.not_mem_nil
  | enter r _ hsettled ih => exact fun t ht hs => absurd hs (not_spent_enter hsettled r t ht)
  | elsewhere w _ hw ih => exact ih
  | @drop g t hg ht _ ih =>
      intro s hs hspent
      have hs := List.mem_of_mem_filter hs
      change (g.entries.take t.guard.depth).length ≤ s.guard.depth
      rw [List.length_take]
      by_cases hbefore : g.Spent s
      · exact (Nat.min_le_right _ _).trans (ih s hs hbefore)
      · -- The entry of the guard is one of those that are taken off now.
        obtain ⟨e, he, howns⟩ := hg.tidy.owns_of_not_spent hs hbefore
        refine (Nat.min_le_left _ _).trans ((loses_iff he).mp ?_)
        by_contra hkept
        obtain ⟨e', he'⟩ := Option.ne_none_iff_exists'.mp hkept
        have heq : e' = e := by
          rw [getElem?_entries_drop] at he'
          split at he'
          · exact Option.some.inj (he'.symm.trans he)
          · cases he'
        exact hspent e' (List.mem_of_getElem? he') (heq ▸ howns.turn.symm)

/-- What a spent guard does, and where it is inert.  Dropping it leaves the stack as it is if and
only if the stack is not deeper than the guard remembers; otherwise entries are lost whose own
guards are still there.  An entry stays until its own guard or that of an entry below it is
dropped, or a spent guard that remembers its place or one below.  If no realm was entered while
there was a spent guard, all spent guards are inert, and an entry stays until its own guard or
that of an entry below it is dropped. -/
theorem spent_guards_act_deeper (h : g.Reaches .any) :
    (∀ t ∈ g.alive, g.Spent t →
      ((g.drop t).world.active = g.world.active ↔ g.world.depth ≤ t.guard.depth)) ∧
    (∀ t ∈ g.alive, ∀ i e, g.entries[i]? = some e →
      (g.Loses t i ↔ g.Covers t i ∨ g.Spent t ∧ t.guard.depth ≤ i)) ∧
    (g.Reaches .settled → ∀ t ∈ g.alive,
      (g.Spent t → (g.drop t).world.active = g.world.active) ∧
        ∀ i e, g.entries[i]? = some e → (g.Loses t i ↔ g.Covers t i)) := by
  have htidy := h.tidy
  refine ⟨fun t ht _ => htidy.active_drop_iff ht, fun t ht i e he => ?_,
    fun hsettled t ht => ⟨fun hs => ?_, fun i e he => ?_⟩⟩
  · rw [loses_iff he, htidy.covers_iff ht]
    by_cases hs : g.Spent t <;> simp [hs]
  · rw [htidy.active_drop_iff ht, World.depth, htidy.stack, length_stackOf]
    exact hsettled.depth_le_of_spent t ht hs
  · rw [loses_iff he, htidy.covers_iff ht]
    refine ⟨fun hi => ⟨fun hs => ?_, hi⟩, And.right⟩
    have hlt := (List.getElem?_eq_some_iff.mp he).1
    have hle := hsettled.depth_le_of_spent t ht hs
    omega

theorem spent_guards_act_deeper_crossed :
    crossed.Reaches .any ∧ crossed.Spent spentTicket ∧
      ((crossed.drop spentTicket).world.active = crossed.world.active ↔
        crossed.world.depth ≤ spentTicket.guard.depth) := by
  have hspent : crossed.Spent spentTicket := by decide
  exact ⟨crossed_reaches, hspent,
    (spent_guards_act_deeper crossed_reaches).1 spentTicket (by decide) hspent⟩

/-- The entry of a guard is gone, and yet dropping it takes the innermost realm off the stack,
whose own guard is still there. -/
theorem spent_guard_acts :
    crossed.Reaches .any ∧ spentTicket ∈ crossed.alive ∧ crossed.Spent spentTicket ∧
      crossed.world.active = [3, 2] ∧ (crossed.drop spentTicket).world.active = [2] ∧
      ∃ t ∈ (crossed.drop spentTicket).alive, t.turn = 3 ∧ t.saw = [2] :=
  ⟨crossed_reaches, by decide, by decide, by decide, by decide, ⟨3, ⟨1⟩, [2]⟩, by decide⟩

end Guarded

end ScriptHost
