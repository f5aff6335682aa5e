import ScriptHost.Proofs.Script.Later

/-!
# Heaps without stray references

Everything that code can get hold of is a value, and a value leads to an object by a
reference.  A rule says which references are allowed in a heap of some size, and a heap
is sound if all of its parts hold allowed references only.

Two rules matter.  `RefRule.bounded` allows the references to objects that are there, so
that a sound heap is closed; it needs a host that hands no made-up references over.
`RefRule.any` allows all of them, for hosts that may do anything.
-/

namespace ScriptHost.Script

/-- Which references a heap with a number of objects may hold. -/
structure RefRule where
  Allows : Nat → ObjectRef → Prop
  existing {n : Nat} {r : ObjectRef} : r < n → Allows n r
  mono {n m : Nat} {r : ObjectRef} : n ≤ m → Allows n r → Allows m r

namespace RefRule

/-- Objects that are there. -/
def bounded : RefRule := ⟨fun n r => r < n, id, fun hnm hr => Nat.lt_of_lt_of_le hr hnm⟩

def any : RefRule := ⟨fun _ _ => True, fun _ => trivial, fun _ _ => trivial⟩

end RefRule

variable (R : RefRule) (n : Nat)

/-! ## Sound parts of a heap -/

def Val.Sound : Val → Prop
  | .object r => R.Allows n r
  | _ => True

def Slot.Sound : Slot → Prop
  | .data v _ => v.Sound R n
  | .accessor getter setter => getter.Sound R n ∧ setter.Sound R n

def Property.Sound (p : Property) : Prop := p.slot.Sound R n

def Callable.Sound : Callable → Prop
  | .closure _ _ receiver => receiver.Sound R n
  | .builtin _ => True
  | .native _ => True
  | .bound target receiver arguments _ =>
    R.Allows n target ∧ receiver.Sound R n ∧ ∀ v ∈ arguments, v.Sound R n

def ObjectKind.Sound : ObjectKind → Prop
  | .function c => c.Sound R n
  | .boxed v => v.Sound R n
  | _ => True

structure Object.Sound (o : Object) : Prop where
  kind : o.kind.Sound R n
  prototype : ∀ p ∈ o.prototype, R.Allows n p
  held : ∀ p, o.Holds p → p.Sound R n

def Binding.Sound (b : Binding) : Prop := ∀ v ∈ b.value, v.Sound R n

def Scope.Sound (s : Scope) : Prop := ∀ b ∈ s.bindings, b.2.Sound R n

/-- The standard objects are there, and all parts of the heap would be sound in a heap of
some size. -/
structure Heap.SoundAt (h : Heap) : Prop where
  places : Place.forbidden < h.size
  objects (r : ObjectRef) : (h.object r).Sound R n
  scopes (r : ScopeRef) : (h.scope r).Sound R n

/-- No part of the heap holds a stray reference. -/
def Heap.Sound (h : Heap) : Prop := h.SoundAt R h.size

variable {R : RefRule} {n m : Nat}

/-! ## A reference that is allowed stays so -/

theorem Val.Sound.mono {v : Val} (hv : v.Sound R n) (hnm : n ≤ m) : v.Sound R m := by
  cases v with
  | object r => exact R.mono hnm hv
  | _ => trivial

/-- A value that is no object holds no reference. -/
theorem Val.sound_of_not_object {v : Val} (hv : ∀ r, v ≠ .object r) : v.Sound R n := by
  cases v with
  | object r => exact absurd rfl (hv r)
  | _ => trivial

theorem Slot.Sound.mono {s : Slot} (hs : s.Sound R n) (hnm : n ≤ m) : s.Sound R m := by
  cases s with
  | data v w => exact Val.Sound.mono hs hnm
  | accessor g s => exact ⟨hs.1.mono hnm, hs.2.mono hnm⟩

theorem Property.Sound.mono {p : Property} (hp : p.Sound R n) (hnm : n ≤ m) : p.Sound R m :=
  Slot.Sound.mono hp hnm

theorem Callable.Sound.mono {c : Callable} (hc : c.Sound R n) (hnm : n ≤ m) : c.Sound R m := by
  cases c with
  | closure f scope receiver => exact Val.Sound.mono hc hnm
  | builtin b => trivial
  | native k => trivial
  | bound target receiver arguments constructs =>
      exact ⟨R.mono hnm hc.1, hc.2.1.mono hnm, fun v hv => (hc.2.2 v hv).mono hnm⟩

theorem ObjectKind.Sound.mono {k : ObjectKind} (hk : k.Sound R n) (hnm : n ≤ m) :
    k.Sound R m := by
  cases k with
  | function c => exact Callable.Sound.mono hk hnm
  | boxed v => exact Val.Sound.mono hk hnm
  | _ => trivial

theorem Object.Sound.mono {o : Object} (ho : o.Sound R n) (hnm : n ≤ m) : o.Sound R m :=
  ⟨ho.kind.mono hnm, fun p hp => R.mono hnm (ho.prototype p hp),
    fun p hp => (ho.held p hp).mono hnm⟩

theorem Scope.Sound.mono {s : Scope} (hs : s.Sound R n) (hnm : n ≤ m) : s.Sound R m :=
  fun b hb v hv => (hs b hb v hv).mono hnm

/-! ## Objects -/

theorem Property.sound_plain {v : Val} (hv : v.Sound R n) : (Property.plain v).Sound R n := hv

namespace Object

variable {o : Object}

theorem sound_default : (default : Object).Sound R n :=
  ⟨trivial, fun _ hp => absurd hp (Option.not_mem_none _), fun _ hp => absurd hp not_holds_default⟩

theorem sound_make {kind : ObjectKind} {prototype : Option ObjectRef}
    {ps : List (Key × Property)} (hkind : kind.Sound R n)
    (hprototype : ∀ p ∈ prototype, R.Allows n p) (hps : ∀ e ∈ ps, e.2.Sound R n) :
    (make kind prototype ps).Sound R n := by
  refine ⟨hkind, hprototype, fun p hp => ?_⟩
  obtain ⟨k, hk⟩ := holds_of_make hp
  exact hps _ hk

/-- An operation on properties brings sound properties in only. -/
theorem SameShape.sound {o' : Object} (hs : o.SameShape o') (ho : o.Sound R n)
    (hheld : ∀ p, o'.Holds p → o.Holds p ∨ p.Sound R n) : o'.Sound R n := by
  refine ⟨hs.kind ▸ ho.kind, fun p hp => ho.prototype p (hs.prototype ▸ hp), fun p hp => ?_⟩
  rcases hheld p hp with hold | hnew
  · exact ho.held p hold
  · exact hnew

theorem Sound.own? (ho : o.Sound R n) {k : Key} {p : Property} (hp : o.own? k = some p) :
    p.Sound R n :=
  ho.held p (holds_of_own? hp)

theorem Sound.put (ho : o.Sound R n) (k : Key) {p : Property} (hp : p.Sound R n) :
    (o.put k p).Sound R n := by
  refine (o.shape_put k p).sound ho fun q hq => ?_
  rcases holds_of_put hq with hold | rfl
  · exact .inl hold
  · exact .inr hp

theorem Sound.erase (ho : o.Sound R n) (k : Key) : (o.erase k).Sound R n :=
  (o.shape_erase k).sound ho fun _ hq => .inl (holds_of_erase hq)

theorem Sound.mapProperties (ho : o.Sound R n) {f : Property → Property}
    (hf : ∀ p, p.Sound R n → (f p).Sound R n) : (o.mapProperties f).Sound R n := by
  refine (o.shape_mapProperties f).sound ho fun q hq => .inr ?_
  obtain ⟨p, hp, rfl⟩ := holds_of_mapProperties hq
  exact hf p (ho.held p hp)

/-- The length of an array is a number. -/
theorem IsLength.sound {p : Property} (hp : IsLength p) : p.Sound R n := by
  obtain ⟨k, w, rfl⟩ := hp
  refine Val.sound_of_not_object fun r hr => ?_
  unfold Val.ofNat Val.ofNumber at hr
  split at hr <;> cases hr

theorem Sound.define (ho : o.Sound R n) (k : Key) {p : Property} (hp : p.Sound R n) :
    (o.define k p).Sound R n := by
  refine (o.shape_define k p).sound ho fun q hq => ?_
  rcases holds_of_define hq with hold | rfl | hlength
  · exact .inl hold
  · exact .inr hp
  · exact .inr hlength.sound

theorem Sound.truncate (ho : o.Sound R n) (k : Nat) : (o.truncate k).Sound R n :=
  (o.shape_truncate k).sound ho fun _ hq => (holds_of_truncate hq).imp_right IsLength.sound

theorem Sound.fill (ho : o.Sound R n) (k : Nat) {vs : List (Option Val)}
    (hvs : ∀ v, some v ∈ vs → v.Sound R n) : (o.fill k vs).Sound R n := by
  refine (o.shape_fill k vs).sound ho fun q hq => ?_
  rcases holds_of_fill hq with hold | ⟨v, hv, rfl⟩
  · exact .inl hold
  · exact .inr (hvs v hv)

end Object

/-! ## Changing a sound heap -/

namespace Heap.SoundAt

variable {h : Heap}

theorem mono (hs : h.SoundAt R n) (hnm : n ≤ m) : h.SoundAt R m :=
  ⟨hs.places, fun r => (hs.objects r).mono hnm, fun r => (hs.scopes r).mono hnm⟩

theorem modify (hs : h.SoundAt R n) (r : ObjectRef) {f : Object → Object}
    (hf : ∀ o, o.Sound R n → (f o).Sound R n) : (h.modify r f).SoundAt R n := by
  refine ⟨by rw [size_modify]; exact hs.places, fun s => ?_, hs.scopes⟩
  rw [object_modify]
  split
  · exact hf _ (hs.objects s)
  · exact hs.objects s

theorem allocate (hs : h.SoundAt R n) {o : Object} (ho : o.Sound R n) :
    (h.allocate o).2.SoundAt R n := by
  refine ⟨Nat.lt_trans hs.places (h.lt_size_allocate o), fun s => ?_, hs.scopes⟩
  rw [object_allocate]
  split
  · exact ho
  · exact hs.objects s

theorem modifyScope (hs : h.SoundAt R n) (r : ScopeRef) {f : Scope → Scope}
    (hf : ∀ s, s.Sound R n → (f s).Sound R n) : (h.modifyScope r f).SoundAt R n := by
  refine ⟨hs.places, hs.objects, fun s => ?_⟩
  have hscope : (h.modifyScope r f).scope s =
      if r = s ∧ s < h.scopes.size then f (h.scope s) else h.scope s := by
    unfold scope Heap.modifyScope
    simp only [Array.getD_eq_getD_getElem?, Array.getElem?_modify]
    by_cases hlt : s < h.scopes.size <;> by_cases hrs : r = s <;> simp [hlt, hrs]
  rw [hscope]
  split
  · exact hf _ (hs.scopes s)
  · exact hs.scopes s

theorem allocateScope (hs : h.SoundAt R n) {s : Scope} (hscope : s.Sound R n) :
    (h.allocateScope s).2.SoundAt R n := by
  refine ⟨hs.places, hs.objects, fun r => ?_⟩
  have hget : (h.allocateScope s).2.scope r = if r = h.scopes.size then s else h.scope r := by
    unfold scope Heap.allocateScope
    simp only [Array.getD_eq_getD_getElem?, Array.getElem?_push]
    split
    · rfl
    · rfl
  rw [hget]
  split
  · exact hscope
  · exact hs.scopes r

end Heap.SoundAt

namespace Heap.Sound

variable {h : Heap} (hs : h.Sound R)

include hs

/-- Being sound is a matter of the objects and the scopes. -/
theorem congr {h' : Heap} (hobjects : h'.objects = h.objects) (hscopes : h'.scopes = h.scopes) :
    h'.Sound R := by
  have hsize : h'.size = h.size := congrArg Array.size hobjects
  have hobject (r : ObjectRef) : h'.object r = h.object r := by simp only [object, hobjects]
  have hscope (r : ScopeRef) : h'.scope r = h.scope r := by simp only [scope, hscopes]
  unfold Sound
  rw [hsize]
  exact ⟨hsize ▸ hs.places, fun r => hobject r ▸ hs.objects r, fun r => hscope r ▸ hs.scopes r⟩

/-- The objects with fixed places can be referred to. -/
theorem place {r : ObjectRef} (hr : r ≤ Place.forbidden) : R.Allows h.size r :=
  R.existing (Nat.lt_of_le_of_lt hr hs.places)

theorem errorPlace (t : ErrorType) : R.Allows h.size (Place.errorPrototype t) :=
  hs.place (by cases t <;> decide)

theorem modify (r : ObjectRef) {f : Object → Object}
    (hf : ∀ o, o.Sound R h.size → (f o).Sound R h.size) : (h.modify r f).Sound R := by
  have hat := SoundAt.modify hs r hf
  unfold Sound
  rwa [size_modify]

theorem allocate {o : Object} (ho : o.Sound R (h.size + 1)) : (h.allocate o).2.Sound R := by
  have hat := (hs.mono (Nat.le_succ _)).allocate ho
  unfold Sound
  rwa [size_allocate]

theorem modifyScope (r : ScopeRef) {f : Scope → Scope}
    (hf : ∀ s, s.Sound R h.size → (f s).Sound R h.size) : (h.modifyScope r f).Sound R :=
  SoundAt.modifyScope hs r hf

theorem allocateScope {s : Scope} (hscope : s.Sound R h.size) : (h.allocateScope s).2.Sound R :=
  SoundAt.allocateScope hs hscope

theorem allocateSymbol (description : Option Units) :
    (h.allocateSymbol description).2.Sound R :=
  ⟨hs.places, hs.objects, hs.scopes⟩

/-! ## Reading a sound heap -/

theorem callable? {v : Val} {c : Callable} (hc : h.callable? v = some c) :
    c.Sound R h.size := by
  cases v with
  | object r =>
      have hkind := (hs.objects r).kind
      simp only [Heap.callable?, Object.callable?] at hc
      split at hc
      · rename_i hfunction
        cases hc
        rwa [hfunction] at hkind
      · cases hc
  | _ => cases hc

theorem findProperty? {r owner : ObjectRef} {k : Key} {p : Property}
    (hf : h.findProperty? r k = some (owner, p)) : p.Sound R h.size := by
  suffices hgo : ∀ fuel r, findProperty?.go h k fuel r = some (owner, p) → p.Sound R h.size from
    hgo _ _ hf
  intro fuel
  induction fuel with
  | zero => intro r hr; cases hr
  | succ fuel ih =>
      intro r hr
      simp only [findProperty?.go] at hr
      split at hr
      · rename_i q hq
        cases hr
        exact (hs.objects owner).own? hq
      · split at hr
        · exact ih _ hr
        · cases hr

theorem scope_find? (r : ScopeRef) {name : Name} {b : Binding}
    (hb : (h.scope r).find? name = some b) : b.Sound R h.size := by
  obtain ⟨e, he, rfl⟩ := Option.map_eq_some_iff.mp hb
  exact hs.scopes r e (List.mem_of_find?_eq_some he)

theorem resolve? {r owner : ScopeRef} {name : Name} {b : Binding}
    (hb : h.resolve? r name = some (owner, b)) : b.Sound R h.size := by
  suffices hgo : ∀ fuel r, resolve?.go h name fuel r = some (owner, b) → b.Sound R h.size from
    hgo _ _ hb
  intro fuel
  induction fuel with
  | zero => intro r hr; cases hr
  | succ fuel ih =>
      intro r hr
      simp only [resolve?.go] at hr
      split at hr
      · rename_i b' hb'
        cases hr
        exact hs.scope_find? owner hb'
      · split at hr
        · exact ih _ hr
        · cases hr

end Heap.Sound

namespace Scope.Sound

variable {s : Scope}

theorem declare (hs : s.Sound R n) (name : Name) {b : Binding} (hb : b.Sound R n) :
    (s.declare name b).Sound R n := by
  intro e he
  rcases List.mem_cons.mp he with rfl | he
  · exact hb
  · exact hs e (List.mem_filter.mp he).1

theorem assign (hs : s.Sound R n) (name : Name) {v : Val} (hv : v.Sound R n) :
    (s.assign name v).Sound R n := by
  intro e he
  obtain ⟨e', he', rfl⟩ := List.mem_map.mp he
  split
  · intro x hx
    cases hx
    exact hv
  · exact hs e' he'

end Scope.Sound

end ScriptHost.Script
