import ScriptHost.Proofs.Script.Rename.Program
import ScriptHost.Proofs.World.Sound

/-!
# Two worlds that mirror each other

Two runs in two worlds are compared.  The second world may have realms that the first one lacks,
older ones, and every realm of the first has its counterpart in the second: it comes later in
the order of creation and has another identifier, and in the keys of its host functions the
identifiers differ the same way.  Beside that the two realms are the same.

A `Pairing` says which parts of the worlds stand for each other: realms, identities of values,
what the hosts remember; and which callbacks and generators take part.  Values that correspond
may hold functions of realms that correspond, which have to be there already, so the number of
realms goes along.  `Pairing.Mirrors` relates worlds, and `Pairing.After` relates two results and
says besides what has not changed on the way: the realms that the first world lacks, the live
stacks, and the active stacks as far as they were there.
-/

namespace ScriptHost

open Script (Heap RefRule Val)

variable {φ γ σ σ' α β : Type}

/-! ## Renamed realms -/

section Rename

variable (ρ : UInt32 → UInt32)

def RealmState.rename : RealmState → RealmState
  | .script h => .script (h.rename ρ)
  | .text s => .text s

/-- The realm with another identifier, in the keys of its host functions too. -/
def Realm.rename (r : Realm φ) : Realm φ := { r with id := ρ r.id, state := r.state.rename ρ }

/-- A heap without host functions has nothing to rename. -/
theorem Script.Heap.rename_of_native? {h : Heap} (hnone : ∀ o, h.native? o = none) :
    h.rename ρ = h := by
  unfold Heap.rename
  congr 1
  refine Array.ext Array.size_map fun i hi _ => ?_
  rw [Array.size_map] at hi
  have hkind := hnone i
  unfold Heap.native? at hkind
  have hobject : h.object i = h.objects[i] := by
    unfold Heap.object
    rw [Array.getD_eq_getD_getElem?, Array.getElem?_eq_getElem hi, Option.getD_some]
  rw [Array.getElem_map, ← hobject]
  generalize h.object i = o at hkind
  obtain ⟨kind, prototype, extensible, elements, properties⟩ := o
  cases kind with
  | function c =>
      cases c with
      | native k => cases hkind
      | _ => rfl
  | _ => rfl

theorem Script.Heap.rename_standard : Heap.standard.rename ρ = Heap.standard :=
  Heap.rename_of_native? ρ Heap.standard_native?

theorem Script.Heap.rename_withMemory {h : Heap} (hh : h.rename ρ = h) (limit : Option Nat) :
    Heap.rename ρ { h with memory := limit } = { h with memory := limit } := by
  have hobjects : h.objects.map (Script.Object.rename ρ) = h.objects := congrArg Heap.objects hh
  unfold Heap.rename
  dsimp only
  rw [hobjects]

variable (r : Realm φ)

@[simp] theorem Realm.heap_rename : (r.rename ρ).heap = r.heap.rename ρ := by
  obtain ⟨id, backend, natives, state, stack⟩ := r
  cases state with
  | script h => rfl
  | text s => exact (Heap.rename_standard ρ).symm

@[simp] theorem Realm.isScript_rename : (r.rename ρ).isScript = r.isScript := by
  obtain ⟨id, backend, natives, state, stack⟩ := r
  cases state <;> rfl

theorem Script.Heap.rename_id (h : Heap) : h.rename (fun i => i) = h := by
  unfold Heap.rename
  congr 1
  refine (congrArg (fun f => h.objects.map f) (funext fun o => ?_)).trans (Array.map_id _)
  obtain ⟨kind, prototype, extensible, elements, properties⟩ := o
  cases kind with
  | function c => cases c <;> rfl
  | _ => rfl

theorem Realm.rename_id : Realm.rename (fun i => i) r = r := by
  obtain ⟨ident, backend, natives, state, stack⟩ := r
  cases state with
  | script h => simp only [Realm.rename, RealmState.rename, h.rename_id]
  | text s => rfl

end Rename

/-! ## What stands for what -/

/-- Which parts of two worlds stand for each other. -/
structure Pairing (φ γ σ σ' : Type) where
  /-- The number of realms of the second world that the first one lacks. -/
  base : Nat
  /-- Realms that are still to be made stand for each other too. -/
  whole : Prop
  /-- The identifiers of realms. -/
  rename : UInt32 → UInt32
  /-- The identities of values. -/
  ids : ValueId → ValueId → Prop
  /-- What the hosts remember. -/
  memory : σ → σ' → Prop
  /-- Whether a realm is live is the same in both worlds. -/
  live : Prop
  /-- The callbacks that take part. -/
  callback : φ → Prop
  /-- The generators that take part. -/
  generator : γ → Prop
  injective : Function.Injective rename
  rename_succ (i : UInt32) : rename (i + 1) = rename i + 1
  ids_succ {i i' : ValueId} : ids i i' → ids (i + 1) (i' + 1)
  rename_eq : whole → rename = fun i => i

variable (P : Pairing φ γ σ σ')

/-- A realm of the first world has its counterpart, if so many realms were made. -/
def Pairing.Has (n : Nat) (r : RealmRef) : Prop := P.whole ∨ r < n

/-- Two functions that the hosts hold stand for each other. -/
inductive FunctionRef.Pairs (n : Nat) : FunctionRef → FunctionRef → Prop
  | captured {r : RealmRef} (hr : P.Has n r) (o : ObjectRef) :
      Pairs n (.captured r o) (.captured (P.base + r) o)
  | foreign (backend : String) : Pairs n (.foreign backend) (.foreign backend)

mutual
/-- Two values stand for each other. -/
inductive Value.Pairs (n : Nat) : Value φ → Value φ → Prop
  | null : Value.Pairs n .null .null
  | undefined : Value.Pairs n .undefined .undefined
  | number {i i' : ValueId} (hi : P.ids i i') (x : Double) :
      Value.Pairs n (.number i x) (.number i' x)
  | string {i i' : ValueId} (hi : P.ids i i') (s : String) :
      Value.Pairs n (.string i s) (.string i' s)
  | function {i i' : ValueId} (hi : P.ids i i') {f f' : FunctionRef} (hf : f.Pairs P n f') :
      Value.Pairs n (.function i f) (.function i' f')
  | object {i i' : ValueId} (hi : P.ids i i') {exports exports' : Namespace φ}
      (he : Namespace.Pairs n exports exports') :
      Value.Pairs n (.object i exports) (.object i' exports')

inductive Namespace.Pairs (n : Nat) : Namespace φ → Namespace φ → Prop
  | empty : Namespace.Pairs n .empty .empty
  | entry (name : String) {item item' : Export φ} {rest rest' : Namespace φ}
      (hitem : Export.Pairs n item item') (hrest : Namespace.Pairs n rest rest') :
      Namespace.Pairs n (.entry name item rest) (.entry name item' rest')

inductive Export.Pairs (n : Nat) : Export φ → Export φ → Prop
  | value {v v' : Value φ} (hv : Value.Pairs n v v') : Export.Pairs n (.value v) (.value v')
  | callback {f : φ} (hf : P.callback f) : Export.Pairs n (.callback f) (.callback f)
  | nested {exports exports' : Namespace φ} (he : Namespace.Pairs n exports exports') :
      Export.Pairs n (.nested exports) (.nested exports')
end

variable {P} {n m : Nat}

theorem Pairing.Has.mono {r : RealmRef} (hr : P.Has n r) (hnm : n ≤ m) : P.Has m r :=
  hr.imp id fun hr => Nat.lt_of_lt_of_le hr hnm

theorem FunctionRef.Pairs.mono {f f' : FunctionRef} (hf : f.Pairs P n f') (hnm : n ≤ m) :
    f.Pairs P m f' := by
  cases hf with
  | captured hr o => exact .captured (hr.mono hnm) o
  | foreign backend => exact .foreign backend

mutual
theorem Value.Pairs.mono {v v' : Value φ} (hnm : n ≤ m) : v.Pairs P n v' → v.Pairs P m v'
  | .null => .null
  | .undefined => .undefined
  | .number hi x => .number hi x
  | .string hi s => .string hi s
  | .function hi hf => .function hi (hf.mono hnm)
  | .object hi he => .object hi (he.mono hnm)

theorem Namespace.Pairs.mono {e e' : Namespace φ} (hnm : n ≤ m) : e.Pairs P n e' → e.Pairs P m e'
  | .empty => .empty
  | .entry name hitem hrest => .entry name (hitem.mono hnm) (hrest.mono hnm)

theorem Export.Pairs.mono {e e' : Export φ} (hnm : n ≤ m) : e.Pairs P n e' → e.Pairs P m e'
  | .value hv => .value (hv.mono hnm)
  | .callback hf => .callback hf
  | .nested he => .nested (he.mono hnm)
end

/-- Two ways to end stand for each other: results that do, or the same error. -/
inductive Ends (R : α → β → Prop) : Except Failure α → Except Failure β → Prop
  | ok {a : α} {b : β} (h : R a b) : Ends R (.ok a) (.ok b)
  | error (e : Failure) : Ends R (.error e) (.error e)

/-! ## Worlds -/

/-- The stacks were changed for a while. -/
theorem Grows.restacked {w w₁ : World φ σ} {active live : List RealmRef}
    (h : Grows { w with active := active, live := live } w₁) (active' live' : List RealmRef) :
    Grows w { w₁ with active := active', live := live' } := by
  have hfirst : Grows w { w with active := active, live := live } :=
    .of_realms_eq rfl rfl List.suffix_rfl
  exact (hfirst.trans h).trans (.of_realms_eq rfl rfl List.suffix_rfl)

namespace Pairing

variable (P)

/-- The second world mirrors the first one. -/
structure Mirrors (w : World φ σ) (w' : World φ σ') : Prop where
  size : w'.realms.size = P.base + w.realms.size
  realm {r : RealmRef} : P.Has w.realms.size r →
    w'.realm (P.base + r) = (w.realm r).rename P.rename
  native {r : RealmRef} {f : φ} : f ∈ (w.realm r).natives → P.callback f
  script : P.whole ∨ ∀ r < w.realms.size, (w.realm r).isScript = true
  nextRealm : w'.nextRealm = P.rename w.nextRealm
  nextValue : P.ids w.nextValue w'.nextValue
  memory : P.memory w.host w'.host
  entered : P.live → ∀ r, r ∈ w.live ↔ P.base + r ∈ w'.live
  live : ∀ r ∈ w.live, (w.realm r).isScript = true
  live' : ∀ r ∈ w'.live, (w'.realm r).isScript = true

/-- Two results correspond, and of what was there before nothing is lost. -/
structure After (w : World φ σ) (w' : World φ σ') (Q : Nat → α → β → Prop) (a : World φ σ × α)
    (b : World φ σ' × β) : Prop where
  mirrors : P.Mirrors a.1 b.1
  grows : Grows w a.1
  grows' : Grows w' b.1
  live : a.1.live = w.live
  live' : b.1.live = w'.live
  active : ∃ l, a.1.active = l ++ w.active ∧ b.1.active = l.map (P.base + ·) ++ w'.active ∧
    ∀ r ∈ l, P.Has a.1.realms.size r
  /-- The realms that the first world lacks stay as they are. -/
  still (r : RealmRef) : r < P.base → b.1.realm r = w'.realm r
  result : Q a.1.realms.size a.2 b.2

variable {P} {w : World φ σ} {w' : World φ σ'} {Q : Nat → α → β → Prop}

namespace Mirrors

variable (hm : P.Mirrors w w')

include hm

theorem idOf {r : RealmRef} (hr : P.Has w.realms.size r) :
    w'.idOf (P.base + r) = P.rename (w.idOf r) :=
  congrArg Realm.id (hm.realm hr)

theorem heap {r : RealmRef} (hr : P.Has w.realms.size r) :
    w'.heap (P.base + r) = (w.heap r).rename P.rename := by
  unfold World.heap
  rw [hm.realm hr, Realm.heap_rename]

theorem made {r : RealmRef} : P.base + r < w'.realms.size ↔ r < w.realms.size := by
  rw [hm.size]
  exact Nat.add_lt_add_iff_left

theorem unchanged {x : α} {y : β} (hQ : Q w.realms.size x y) : P.After w w' Q (w, x) (w', y) :=
  ⟨hm, .refl w, .refl w', rfl, rfl, ⟨[], rfl, rfl, fun _ hr => absurd hr List.not_mem_nil⟩,
    fun _ _ => rfl, hQ⟩

/-- Values are made, something is recorded, and the hosts remember something. -/
theorem kept {i i' : ValueId} {s : σ} {s' : σ'} {log log' : List Event} (hlog : w.log <:+ log)
    (hlog' : w'.log <:+ log') (hids : P.ids i i') (hmemory : P.memory s s') {x : α} {y : β}
    (hQ : Q w.realms.size x y) :
    P.After w w' Q ({ w with nextValue := i, log := log, host := s }, x)
      ({ w' with nextValue := i', log := log', host := s' }, y) where
  mirrors := { hm with
    nextValue := hids
    memory := hmemory }
  grows := .of_realms_eq rfl rfl hlog
  grows' := .of_realms_eq rfl rfl hlog'
  live := rfl
  live' := rfl
  active := ⟨[], rfl, rfl, fun _ hr => absurd hr List.not_mem_nil⟩
  still _ _ := rfl
  result := hQ

theorem recorded (e e' : Event) {x : α} {y : β} (hQ : Q w.realms.size x y) :
    P.After w w' Q (w.record e, x) (w'.record e', y) :=
  hm.kept (List.suffix_cons e w.log) (List.suffix_cons e' w'.log) hm.nextValue hm.memory hQ

/-! ### Realms -/

/-- Realms that correspond change alike. -/
theorem modify (k : RealmRef) (f f' : Realm φ → Realm φ)
    (hf : ∀ x, f' (x.rename P.rename) = (f x).rename P.rename)
    (hnative : ∀ x g, g ∈ (f x).natives → g ∈ x.natives ∨ P.callback g)
    (hgrows : Grows w (w.modifyRealm k f))
    (hgrows' : Grows w' (w'.modifyRealm (P.base + k) f')) {x : α} {y : β}
    (hQ : Q w.realms.size x y) :
    P.After w w' Q (w.modifyRealm k f, x) (w'.modifyRealm (P.base + k) f', y) := by
  refine ⟨⟨?_, fun {r} hr => ?_, fun {r g} hg => ?_, ?_, hm.nextRealm, hm.nextValue, hm.memory,
    hm.entered, fun r hr => hgrows.isScript r (hm.live r hr),
    fun r hr => hgrows'.isScript r (hm.live' r hr)⟩, hgrows, hgrows', rfl, rfl,
    ⟨[], rfl, rfl, fun _ hr => absurd hr List.not_mem_nil⟩, fun r hr => ?_, ?_⟩
  · rw [w.size_modifyRealm, w'.size_modifyRealm, hm.size]
  · rw [w.size_modifyRealm] at hr
    rw [w.realm_modifyRealm, w'.realm_modifyRealm, hm.realm hr]
    by_cases hk : k = r ∧ r < w.realms.size
    · rw [if_pos hk, if_pos ⟨congrArg _ hk.1, hm.made.mpr hk.2⟩, hf]
    · rw [if_neg hk, if_neg fun hand => hk ⟨Nat.add_left_cancel hand.1, hm.made.mp hand.2⟩]
  · rw [w.realm_modifyRealm] at hg
    split at hg
    · exact (hnative _ g hg).elim hm.native id
    · exact hm.native hg
  · rw [w.size_modifyRealm]
    exact hm.script.imp id fun hscript r hr => hgrows.isScript r (hscript r hr)
  · rw [w'.realm_modifyRealm, if_neg fun hand => ?_]
    exact absurd hr (by rw [← hand.1]; exact Nat.not_lt_of_le (Nat.le_add_right _ _))
  · rw [w.size_modifyRealm]
    exact hQ

theorem setHeap (k : RealmRef) (h : Heap) {x : α} {y : β} (hQ : Q w.realms.size x y) :
    P.After w w' Q (w.setHeap k h, x) (w'.setHeap (P.base + k) (h.rename P.rename), y) :=
  hm.modify k (fun x => { x with state := .script h })
    (fun x => { x with state := .script (h.rename P.rename) }) (fun _ => rfl)
    (fun _ _ hg => .inl hg) (Grows.frame.setHeap w k h) (Grows.frame.setHeap w' _ _) hQ

/-- A callback gets the same slot in realms that correspond. -/
theorem register (k : RealmRef) {f : φ} (hf : P.callback f) {x : α} {y : β}
    (hQ : Q w.realms.size x y) :
    P.After w w' Q ((w.register k f).2, x) ((w'.register (P.base + k) f).2, y) := by
  refine hm.modify k (fun x => x.register f) (fun x => x.register f) (fun _ => rfl)
    (fun x g hg => ?_) (Grows.frame.register w k f) (Grows.frame.register w' _ f) hQ
  rcases Array.mem_push.mp hg with hg | rfl
  · exact .inl hg
  · exact .inr hf

/-- New realms correspond. -/
theorem addRealm {h : Heap} (hh : h.rename P.rename = h) (stack : Script.Stack) {x : α}
    {y : β} (hQ : Q (w.realms.size + 1) x y) :
    P.After w w' Q ((w.addRealm scriptBackend (.script h) stack).2, x)
      ((w'.addRealm scriptBackend (.script h) stack).2, y) := by
  have hgrows : Grows w (w.addRealm scriptBackend (.script h) stack).2 :=
    Grows.frame.addRealm w scriptBackend (.script h) stack
  have hgrows' : Grows w' (w'.addRealm scriptBackend (.script h) stack).2 :=
    Grows.frame.addRealm w' scriptBackend (.script h) stack
  refine ⟨⟨?_, fun {r} hr => ?_, fun {r g} hg => ?_, ?_, ?_, hm.nextValue, hm.memory,
    hm.entered, fun r hr => hgrows.isScript r (hm.live r hr),
    fun r hr => hgrows'.isScript r (hm.live' r hr)⟩, hgrows, hgrows', rfl, rfl,
    ⟨[], rfl, rfl, fun _ hr => absurd hr List.not_mem_nil⟩, fun r hr => ?_, ?_⟩
  · rw [w.size_addRealm, w'.size_addRealm, hm.size, Nat.add_assoc]
  · rw [w.size_addRealm] at hr
    rw [w.realm_addRealm, w'.realm_addRealm, hm.size]
    by_cases hlast : r = w.realms.size
    · rw [if_pos hlast, if_pos (congrArg _ hlast), hm.nextRealm]
      simp only [Realm.rename, RealmState.rename, hh]
    · rw [if_neg hlast, if_neg fun heq => hlast (Nat.add_left_cancel heq)]
      exact hm.realm (hr.imp id fun hr => Nat.lt_of_le_of_ne (Nat.le_of_lt_succ hr) hlast)
  · rw [w.realm_addRealm] at hg
    split at hg
    · exact absurd hg (Array.not_mem_empty _)
    · exact hm.native hg
  · rw [w.size_addRealm]
    refine hm.script.imp id fun hscript r hr => ?_
    rw [w.realm_addRealm]
    split
    · rfl
    · exact hscript r (Nat.lt_of_le_of_ne (Nat.le_of_lt_succ hr) ‹_›)
  · change w'.nextRealm + 1 = P.rename (w.nextRealm + 1)
    rw [hm.nextRealm, P.rename_succ]
  · rw [w'.realm_addRealm, if_neg fun hlast => ?_]
    rw [hlast, hm.size] at hr
    exact absurd hr (Nat.not_lt_of_le (Nat.le_add_right _ _))
  · rw [w.size_addRealm]
    exact hQ

/-! ### Stacks -/

/-- The active stacks are no part of it. -/
theorem withActive (active active' : List RealmRef) :
    P.Mirrors { w with active := active } { w' with active := active' } :=
  { hm with }

theorem withLive {live live' : List RealmRef}
    (hentered : P.live → ∀ r, r ∈ live ↔ P.base + r ∈ live')
    (hlive : ∀ r ∈ live, (w.realm r).isScript = true)
    (hlive' : ∀ r ∈ live', (w'.realm r).isScript = true) :
    P.Mirrors { w with live := live } { w' with live := live' } :=
  { hm with
    entered := hentered
    live := hlive
    live' := hlive' }

end Mirrors

namespace After

variable {a : World φ σ × α} {b : World φ σ' × β}

/-- What goes on from results that correspond. -/
theorem andThen {α' β' : Type} {Q' : Nat → α' → β' → Prop} {x : World φ σ × α'}
    {y : World φ σ' × β'} (hfirst : P.After w w' Q a b) (hrest : P.After a.1 b.1 Q' x y) :
    P.After w w' Q' x y := by
  obtain ⟨l, hl, hl', hhas⟩ := hfirst.active
  obtain ⟨m, hm, hm', hhas'⟩ := hrest.active
  refine ⟨hrest.mirrors, hfirst.grows.trans hrest.grows, hfirst.grows'.trans hrest.grows',
    hrest.live.trans hfirst.live, hrest.live'.trans hfirst.live', ⟨m ++ l, ?_, ?_, fun r hr => ?_⟩,
    fun r hr => (hrest.still r hr).trans (hfirst.still r hr), hrest.result⟩
  · rw [hm, hl, List.append_assoc]
  · rw [hm', hl', List.map_append, List.append_assoc]
  · rcases List.mem_append.mp hr with hr | hr
    · exact hhas' r hr
    · exact (hhas r hr).mono hrest.grows.size_le

theorem weaken {Q' : Nat → α → β → Prop} (h : P.After w w' Q a b)
    (hQ : ∀ n x y, Q n x y → Q' n x y) : P.After w w' Q' a b :=
  { h with result := hQ _ _ _ h.result }

/-- A realm is active for a while. -/
theorem entered {r : RealmRef} (h : P.After (w.enter r).2 (w'.enter (P.base + r)).2 Q a b) :
    P.After w w' Q (a.1.leave (w.enter r).1, a.2)
      (b.1.leave (w'.enter (P.base + r)).1, b.2) := by
  obtain ⟨l, hl, hl', -⟩ := h.active
  have hback {φ' σ'' : Type} {v : World φ' σ''} {m stack : List RealmRef} {s : RealmRef}
      (hstack : stack = m ++ s :: v.active) :
      World.bottom (v.enter s).1.depth stack = v.active := by
    subst hstack
    unfold World.bottom World.enter
    rw [List.append_cons, List.length_append, Nat.add_sub_cancel, List.drop_left]
  exact { h with
    mirrors := h.mirrors.withActive _ _
    grows := h.grows.restacked _ _
    grows' := h.grows'.restacked _ _
    active := ⟨[], hback hl, hback hl', fun _ hr => absurd hr List.not_mem_nil⟩ }

/-- Realms are live for a while. -/
theorem lived {live live' : List RealmRef} (hm : P.Mirrors w w')
    (h : P.After { w with live := live } { w' with live := live' } Q a b) :
    P.After w w' Q ({ a.1 with live := w.live }, a.2) ({ b.1 with live := w'.live }, b.2) := by
  have hgrows := h.grows.restacked a.1.active w.live
  have hgrows' := h.grows'.restacked b.1.active w'.live
  exact { h with
    mirrors := h.mirrors.withLive hm.entered (fun r hr => hgrows.isScript r (hm.live r hr))
      fun r hr => hgrows'.isScript r (hm.live' r hr)
    grows := hgrows
    grows' := hgrows'
    live := rfl
    live' := rfl }

end After

end Pairing

end ScriptHost
