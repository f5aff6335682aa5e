import ScriptHost.Proofs.Boundary.Confined
import ScriptHost.Proofs.Script.HostError

/-!
# What a namespace looks like in a realm

A namespace that was exported onto an object can be read back from it.  Every name that it
exports is a property of the object itself, and what is read under the name is what the export
stands for: a value is there as what it goes in as, a callback as a function with that name
that leads to the callback, a nested namespace and an object as a plain object that has
properties under exactly the exported names, and of which the same is true again.

`Realised` says this, along the structure of what is exported.  A name that is exported more
than once is there as what it was exported as last, and nothing is said about the name
`__proto__`, which is no property but the way to the prototype.

Everything that is realised is at or above a bound: all of it is new.  So it stays realised
while the objects from the bound on stay as they are.
-/

namespace ScriptHost

open Script (Evaluator Heap Property Val key text)

variable {φ σ : Type}

/-! ## Reading back -/

/-- A property of the object itself holds a value, and that is what is read. -/
structure Script.Heap.Shows (h : Heap) (o : ObjectRef) (name : String) (x : Val) : Prop where
  own : ∃ writable enumerable configurable,
    (h.object o).own? (key name) = some ⟨.data x writable, enumerable, configurable⟩
  get (ev : Evaluator) :
    Script.getProperty ev (.object o) (key name) h = .finished h (.returned x)

theorem Script.Heap.shows_of_own? {h : Heap} {o : ObjectRef} {name : String} {p : Property}
    {x : Val} {w : Bool} (hp : (h.object o).own? (key name) = some p)
    (hslot : p.slot = .data x w) : h.Shows o name x := by
  obtain ⟨slot, e, c⟩ := p
  obtain rfl : slot = .data x w := hslot
  exact ⟨⟨w, e, c, hp⟩, Script.Heap.getProperty_own hp⟩

/-- What an object shows it shows as long as it stays as it is. -/
theorem Script.Heap.Shows.congr {h h' : Heap} {o : ObjectRef} {name : String} {x : Val}
    (hs : h.Shows o name x) (hsame : h'.object o = h.object o) : h'.Shows o name x := by
  obtain ⟨w, e, c, hown⟩ := hs.own
  rw [← hsame] at hown
  exact shows_of_own? hown rfl

/-- A plain object, made at a bound or later, whose own properties have exactly these names.
If `__proto__` is one of them, it may be no property. -/
structure Script.Heap.Carries (h : Heap) (bound : ObjectRef) (o : ObjectRef)
    (names : List String) : Prop where
  new : bound ≤ o
  made : o < h.size
  kind : (h.object o).kind = .plain
  exactly (k : Script.Key) : k ≠ key Script.prototypeName ∨ Script.prototypeName ∉ names →
    ((∃ p, (h.object o).own? k = some p) ↔ ∃ name ∈ names, k = key name)

/-- What a function is in a realm: the object that it was captured as, or undefined. -/
def FunctionRef.restored (r : RealmRef) (f : FunctionRef) : Val :=
  (f.objectIn? r).elim .undefined .object

/-- An object of a realm is a function with a name that leads to a callback: it has the key
of a slot, and as long as there are slots enough the callback is in that slot. -/
structure World.LeadsTo (w : World φ σ) (r : RealmRef) (o : ObjectRef) (name : String)
    (f : φ) : Prop where
  name : (w.heap r).Shows o "name" (.string (text name))
  slot : ∃ slot, (w.heap r).native? o = some ⟨w.idOf r, slot⟩ ∧
    ((w.realm r).natives.size ≤ 2 ^ 32 → (w.realm r).native? slot = some f)

section Realised

variable (w : World φ σ) (r : RealmRef) (bound : ObjectRef)

mutual
/-- A script value is what a host value goes in as. -/
def Value.Realised : Value φ → Val → Prop
  | .null, x => x = .null
  | .undefined, x => x = .undefined
  | .number _ d, x => x = .ofNumber d
  | .string _ s, x => x = .string (Units.ofString s)
  | .function _ f, x => x = f.restored r
  | .object _ exports, x => ∃ o, x = .object o ∧
      (w.heap r).Carries bound o exports.names ∧ exports.Realised o

/-- An object shows what a namespace exports. -/
def Namespace.Realised : Namespace φ → ObjectRef → Prop
  | .empty, _ => True
  | .entry name item rest, o =>
    (name ≠ Script.prototypeName → name ∉ rest.names →
      ∃ x, (w.heap r).Shows o name x ∧ item.Realised name x) ∧ rest.Realised o

/-- A script value is what an export stands for under a name. -/
def Export.Realised : Export φ → String → Val → Prop
  | .value v, _, x => v.Realised x
  | .callback f, name, x => ∃ o, x = .object o ∧ bound ≤ o ∧ o < (w.heap r).size ∧
      w.LeadsTo r o name f
  | .nested exports, _, x => ∃ o, x = .object o ∧
      (w.heap r).Carries bound o exports.names ∧ exports.Realised o
end

end Realised

/-- Every name that was exported is shown, but for `__proto__`. -/
theorem Namespace.Realised.shows {w : World φ σ} {r : RealmRef} {bound o : ObjectRef}
    {name : String} (hname : name ≠ Script.prototypeName) (n : Namespace φ)
    (hmem : name ∈ n.names) (hn : n.Realised w r bound o) : ∃ x, (w.heap r).Shows o name x := by
  cases n with
  | empty => exact absurd hmem List.not_mem_nil
  | entry first item rest =>
      by_cases hlater : name ∈ rest.names
      · exact shows hname rest hlater hn.2
      · obtain rfl : name = first := (List.mem_cons.mp hmem).resolve_right hlater
        obtain ⟨x, hx, -⟩ := hn.1 hname hlater
        exact ⟨x, hx⟩

/-! ## What stays realised -/

/-- A world grows, and the objects of a realm from a bound on stay as they are. -/
structure KeepsFrom (r : RealmRef) (bound : ObjectRef) (w w' : World φ σ) : Prop where
  grows : Grows w w'
  made : r < w.realms.size
  size_le : (w.heap r).size ≤ (w'.heap r).size
  same (o : ObjectRef) : bound ≤ o → o < (w.heap r).size →
    (w'.heap r).object o = (w.heap r).object o

section Keeps

variable {w w' : World φ σ} {r : RealmRef} {bound low o : ObjectRef}

theorem Script.Heap.Carries.keep {names : List String} (hk : KeepsFrom r bound w w')
    (hlow : low ≤ bound) (ho : (w.heap r).Carries bound o names) :
    (w'.heap r).Carries low o names := by
  have hsame := hk.same o ho.new ho.made
  refine ⟨hlow.trans ho.new, Nat.lt_of_lt_of_le ho.made hk.size_le, ?_, fun k hother => ?_⟩
  · rw [hsame]
    exact ho.kind
  · rw [hsame]
    exact ho.exactly k hother

theorem World.LeadsTo.keep {name : String} {f : φ} (hk : KeepsFrom r bound w w')
    (hnew : bound ≤ o) (hmade : o < (w.heap r).size) (hf : w.LeadsTo r o name f) :
    w'.LeadsTo r o name f := by
  have hsame := hk.same o hnew hmade
  obtain ⟨slot, hnative, hin⟩ := hf.slot
  refine ⟨hf.name.congr hsame, slot, ?_, fun hfew => ?_⟩
  · rw [hk.grows.id_eq r hk.made, ← hnative]
    unfold Heap.native?
    rw [hsame]
  · have hsize : (w.realm r).natives.size ≤ (w'.realm r).natives.size :=
      (hk.grows.natives r).length_le
    exact hk.grows.native? (hin (hsize.trans hfew))

mutual
theorem Value.Realised.keep (hk : KeepsFrom r bound w w') (hlow : low ≤ bound) (v : Value φ)
    {x : Val} (hx : v.Realised w r bound x) : v.Realised w' r low x := by
  cases v with
  | null => exact hx
  | undefined => exact hx
  | number id d => exact hx
  | string id s => exact hx
  | function id f => exact hx
  | object id exports =>
      obtain ⟨o, rfl, ho, hexports⟩ := hx
      exact ⟨o, rfl, ho.keep hk hlow,
        exports.keep_realised hk hlow (hk.same o ho.new ho.made) hexports⟩

theorem Namespace.keep_realised (hk : KeepsFrom r bound w w') (hlow : low ≤ bound)
    (n : Namespace φ) {o : ObjectRef} (hsame : (w'.heap r).object o = (w.heap r).object o)
    (hn : n.Realised w r bound o) : n.Realised w' r low o := by
  cases n with
  | empty => trivial
  | entry name item rest =>
      refine ⟨fun hname hlast => ?_, rest.keep_realised hk hlow hsame hn.2⟩
      obtain ⟨x, hshows, hx⟩ := hn.1 hname hlast
      exact ⟨x, hshows.congr hsame, hx.keep hk hlow⟩

theorem Export.Realised.keep (hk : KeepsFrom r bound w w') (hlow : low ≤ bound) {name : String}
    (item : Export φ) {x : Val} (hx : item.Realised w r bound name x) :
    item.Realised w' r low name x := by
  cases item with
  | value v => exact Value.Realised.keep hk hlow v hx
  | callback f =>
      obtain ⟨o, rfl, hnew, hmade, hf⟩ := hx
      exact ⟨o, rfl, hlow.trans hnew, Nat.lt_of_lt_of_le hmade hk.size_le,
        hf.keep hk hnew hmade⟩
  | nested exports =>
      obtain ⟨o, rfl, ho, hexports⟩ := hx
      exact ⟨o, rfl, ho.keep hk hlow,
        exports.keep_realised hk hlow (hk.same o ho.new ho.made) hexports⟩
end

end Keeps

end ScriptHost
