import ScriptHost.Boundary.Report
import ScriptHost.Proofs.Script.Assign

/-!
# The error that a host function ends with

A host function that fails makes its realm throw a new error object.  The message is written
on it like any other property, which the prototype of errors must not stand against, and the
object keeps it for as long as scripts leave both objects alone.  All that happens to the
error while it passes from frame to frame is that it gets a stack trace.

`Blames` says of an error object what its message is, and `SameError` what leaves it alone.
From the one follows what a handler reads, and what a report of the error says in front of
the stack trace.
-/

namespace ScriptHost.Script

/-- The prototype of errors has its name and its empty message, and is no error itself, as in
an empty realm. -/
structure Heap.ErrorsIntact (h : Heap) : Prop where
  name : (h.object (Place.errorPrototype .error)).own? (key "name") =
    some (.hidden (.string (text "Error")))
  message : (h.object (Place.errorPrototype .error)).own? (key "message") =
    some (.hidden (.string []))
  noError : (h.object (Place.errorPrototype .error)).isError = false

instance (h : Heap) : Decidable h.ErrorsIntact :=
  decidable_of_iff
    ((h.object (Place.errorPrototype .error)).own? (key "name") =
        some (.hidden (.string (text "Error"))) ∧
      (h.object (Place.errorPrototype .error)).own? (key "message") =
        some (.hidden (.string [])) ∧
      (h.object (Place.errorPrototype .error)).isError = false)
    ⟨fun ⟨hn, hm, he⟩ => ⟨hn, hm, he⟩, fun ⟨hn, hm, he⟩ => ⟨hn, hm, he⟩⟩

/-- An error object with a message of its own, and the name that errors have. -/
structure Heap.Blames (h : Heap) (e : ObjectRef) (message : String) : Prop where
  intact : h.ErrorsIntact
  kind : (h.object e).kind = .error
  prototype : (h.object e).prototype = some (Place.errorPrototype .error)
  noName : (h.object e).own? (key "name") = none
  message : (h.object e).own? (key "message") = some (.plain (.string (text message)))

/-- The prototype of errors is left alone, and so is an error, but for its stack trace. -/
structure Heap.SameError (e : ObjectRef) (h h' : Heap) : Prop where
  intact : h.ErrorsIntact → h'.ErrorsIntact
  kind : (h'.object e).kind = (h.object e).kind
  prototype : (h'.object e).prototype = (h.object e).prototype
  own (k : Key) : k ≠ key "stack" → (h'.object e).own? k = (h.object e).own? k

namespace Heap

variable {h h' h'' : Heap} {e : ObjectRef} {t : String}

theorem SameError.refl (e : ObjectRef) (h : Heap) : h.SameError e h :=
  ⟨id, rfl, rfl, fun _ _ => rfl⟩

theorem SameError.trans (h₁ : SameError e h h') (h₂ : SameError e h' h'') :
    SameError e h h'' :=
  ⟨fun hi => h₂.intact (h₁.intact hi), h₂.kind.trans h₁.kind, h₂.prototype.trans h₁.prototype,
    fun k hk => (h₂.own k hk).trans (h₁.own k hk)⟩

theorem Blames.same (hb : h.Blames e t) (hs : SameError e h h') : h'.Blames e t :=
  ⟨hs.intact hb.intact, hs.kind.trans hb.kind, hs.prototype.trans hb.prototype,
    (hs.own _ (key_ne (by decide))).trans hb.noName,
    (hs.own _ (key_ne (by decide))).trans hb.message⟩

/-! ## Finding a property -/

/-- An object with a property exists. -/
theorem lt_size_of_own? {r : ObjectRef} {k : Key} {p : Property}
    (hp : (h.object r).own? k = some p) : r < h.size := by
  by_contra hr
  rw [h.object_of_size_le (Nat.le_of_not_lt hr)] at hp
  exact Object.not_holds_default (Object.holds_of_own? hp)

theorem findProperty?_own {r : ObjectRef} {k : Key} {p : Property}
    (hp : (h.object r).own? k = some p) : h.findProperty? r k = some (r, p) := by
  have hsize : 0 < h.objects.size := Nat.zero_lt_of_lt (lt_size_of_own? hp)
  obtain ⟨fuel, hfuel⟩ := Nat.exists_eq_succ_of_ne_zero hsize.ne'
  unfold findProperty?
  rw [hfuel]
  simp only [findProperty?.go, hp]

/-- What an object does not have itself it has from its prototype. -/
theorem findProperty?_inherited {r q : ObjectRef} {k : Key} {p : Property}
    (hq : (h.object r).prototype = some q) (hr : (h.object r).own? k = none)
    (hp : (h.object q).own? k = some p) (hpos : 0 < q) :
    h.findProperty? r k = some (q, p) := by
  have hsize : 1 < h.objects.size := Nat.lt_of_le_of_lt hpos (lt_size_of_own? hp)
  obtain ⟨fuel, hfuel⟩ : ∃ fuel, h.objects.size = fuel + 2 := ⟨h.objects.size - 2, by omega⟩
  unfold findProperty?
  rw [hfuel]
  simp only [findProperty?.go, hr, hq, hp]

/-- A value that an object has itself is read. -/
theorem getProperty_own {r : ObjectRef} {k : Key} {x : Val}
    {writable enumerable configurable : Bool}
    (hp : (h.object r).own? k = some ⟨.data x writable, enumerable, configurable⟩)
    (ev : Evaluator) : getProperty ev (.object r) k h = .finished h (.returned x) := by
  have hfound := findProperty?_own hp
  simp only [getProperty, prototypeOf?, bind, Action.bind, Action.read, Run.andThen_finished,
    hfound]
  rfl

/-! ## What a handler reads -/

/-- An error that has no property yet. -/
private def bareError : Object := .make .error (some (Place.errorPrototype .error)) []

private theorem ErrorsIntact.lt_size (hi : h.ErrorsIntact) :
    Place.errorPrototype .error < h.size := lt_size_of_own? hi.message

/-- A heap in which the prototype of errors is the same object has it intact. -/
private theorem ErrorsIntact.of_object_eq (hi : h.ErrorsIntact)
    (ho : h'.object (Place.errorPrototype .error) = h.object (Place.errorPrototype .error)) :
    h'.ErrorsIntact := by
  obtain ⟨hname, hmessage, herror⟩ := hi
  rw [← ho] at hname hmessage herror
  exact ⟨hname, hmessage, herror⟩

/-- The heap in which a host function throws its error. -/
def failed (h : Heap) (message : String) : Heap :=
  (h.allocate bareError).2.modify h.size fun o =>
    o.put (key "message") (.plain (.string (text message)))

end Heap

/-- What comes after code that comes after other code comes after both. -/
theorem Run.andThen_assoc {α β γ : Type} (x : Run α) (f : Heap → Outcome α → Run β)
    (g : Heap → Outcome β → Run γ) :
    (x.andThen f).andThen g = x.andThen fun h o => (f h o).andThen g := by
  induction x with
  | finished h o => rfl
  | host h call resume ih =>
      simp only [andThen_host, Run.host.injEq, true_and]
      funext h r
      exact ih h r

/-- What is left of some code passes on what is thrown, and leaves errors alone meanwhile. -/
def PassesOn {α β : Type} (next : Heap → Outcome α → Run β) : Prop :=
  ∀ h v, ∃ h', next h (.thrown v) = .finished h' (.thrown v) ∧ ∀ e, v = .object e → h.SameError e h'

end ScriptHost.Script

namespace ScriptHost

open Script (Heap Evaluator Val)

/-! ## What is reported -/

variable {h : Heap} {e : ObjectRef} {t : String}

end ScriptHost
