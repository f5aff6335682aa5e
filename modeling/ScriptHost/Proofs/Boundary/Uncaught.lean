import ScriptHost.Proofs.Script.HostError
import ScriptHost.Proofs.World.Grows

/-!
# Errors that nobody catches

Code of a realm that calls a host function is driven to that call, and what the call throws
goes through what is left of the code.  If none of that catches it, the error comes out of
the realm and is reported.  Its name and its message are read first, so whatever its stack
trace turns out to be, and whatever reading that sets off, the report starts with them.
-/

namespace ScriptHost

open Script (Evaluator Heap HostCall Outcome Run Val)

variable {φ σ α β : Type}

/-! ## Driving code in parts -/

section Drive

variable {d : Dispatcher φ σ} {r : RealmRef} {w : World φ σ}

theorem World.setHeap_setHeap (w : World φ σ) (r : RealmRef) (h h' : Heap) :
    (w.setHeap r h).setHeap r h' = w.setHeap r h' := by
  unfold World.setHeap World.modifyRealm
  congr 1
  refine Array.ext_getElem? fun i => ?_
  by_cases hi : r = i
  · simp only [Array.getElem?_modify, if_pos hi]
    cases w.realms[i]? <;> rfl
  · simp only [Array.getElem?_modify, if_neg hi]

/-- Code is given its heap, so that of the realm does not matter. -/
theorem drive_setHeap (x : Run α) (h : Heap) :
    drive d r x (w.setHeap r h) = drive d r x w := by
  cases x with
  | finished h' o => simp only [drive, World.setHeap_setHeap]
  | host h' call resume => simp only [drive, World.setHeap_setHeap]

/-- Code that comes after other code starts in the world, and from the outcome, that this one ends
with. -/
theorem drive_andThen (hd : ∀ context call (w : World φ σ), Grows w (d context call w).1)
    (hr : r < w.realms.size) (x : Run α) (next : Heap → Outcome α → Run β) :
    drive d r (x.andThen next) w =
      drive d r (next ((drive d r x w).1.heap r) (drive d r x w).2) (drive d r x w).1 := by
  induction x generalizing w with
  | finished h o =>
      simp only [Run.andThen_finished, drive, w.heap_setHeap_self hr, drive_setHeap]
  | host h call resume ih =>
      have hsize : r < (d r call (w.setHeap r h)).1.realms.size := by
        have hgrows := (hd r call (w.setHeap r h)).size_le
        rw [w.size_setHeap] at hgrows
        exact Nat.lt_of_lt_of_le hr hgrows
      simp only [Run.andThen_host, drive]
      exact ih _ _ hsize

/-- Code comes to the point where some other code is left, after the host calls in front of
it were answered. -/
inductive Comes (d : Dispatcher φ σ) (r : RealmRef) : Run α → World φ σ → Run α → World φ σ → Prop
  | here (x : Run α) (w : World φ σ) : Comes d r x w x w
  | answered {x : Run α} {w w₁ : World φ σ} {h : Heap} {call : HostCall}
      {resume : Heap → Script.Reply → Run α} :
      Comes d r x w (.host h call resume) w₁ →
        Comes d r x w
          (resume ((d r call (w₁.setHeap r h)).1.heap r) (d r call (w₁.setHeap r h)).2)
          (d r call (w₁.setHeap r h)).1

end Drive

/-! ## Code that always returns -/

/-- However host calls are answered, the code ends with a result. -/
def Script.Run.Returns : Run α → Prop
  | .finished _ o => ∃ a, o = .returned a
  | .host _ _ resume => ∀ h reply, (resume h reply).Returns

namespace Script.Run.Returns

theorem andThen {x : Run α} (hx : x.Returns) {next : Heap → Outcome α → Run β}
    (hnext : ∀ h a, (next h (.returned a)).Returns) : (x.andThen next).Returns := by
  induction x with
  | finished h o =>
      obtain ⟨a, rfl⟩ := hx
      exact hnext h a
  | host h call resume ih => exact fun h reply => ih h reply (hx h reply)

theorem bind {x : Action α} {h : Heap} (hx : (x h).Returns) {f : α → Action β}
    (hf : ∀ a h, (f a h).Returns) : ((x >>= f) h).Returns :=
  hx.andThen fun h a => hf a h

/-- The outcome of code is a result, whatever it is. -/
theorem outcome (x : Action α) (h : Heap) : (x.outcome h).Returns := by
  unfold Action.outcome
  generalize x h = y
  induction y with
  | finished h o => exact ⟨o, rfl⟩
  | host h call resume ih => exact fun h reply => ih h reply

theorem drive {x : Run α} (hx : x.Returns) (d : Dispatcher φ σ) (r : RealmRef) (w : World φ σ) :
    ∃ w' a, ScriptHost.drive d r x w = (w', .returned a) := by
  induction x generalizing w with
  | finished h o =>
      obtain ⟨a, rfl⟩ := hx
      exact ⟨_, a, rfl⟩
  | host h call resume ih => exact ih _ _ (hx _ _) _

end Script.Run.Returns

private theorem returns_tryProperty (ev : Evaluator) (v : Val) (name : String) (h : Heap) :
    (tryProperty ev v name h).Returns := by
  refine .bind (.outcome _ h) fun o h => ?_
  cases o with
  | returned x => exact ⟨some x, rfl⟩
  | thrown v => exact ⟨none, rfl⟩
  | suspended => exact ⟨none, rfl⟩

private theorem returns_tryText (ev : Evaluator) (v : Val) (h : Heap) :
    (tryText ev v h).Returns := by
  refine .bind (.outcome _ h) fun o h => ?_
  cases o with
  | returned s => exact ⟨s.toString?, rfl⟩
  | thrown v => exact ⟨none, rfl⟩
  | suspended => exact ⟨none, rfl⟩

theorem returns_tryTextOf (ev : Evaluator) (v : Val) (name : String) (h : Heap) :
    (tryTextOf ev v name h).Returns := by
  refine .bind (returns_tryProperty ev v name h) fun x h => ?_
  cases x with
  | none => exact ⟨none, rfl⟩
  | some x =>
      cases x with
      | null => exact ⟨none, rfl⟩
      | undefined => exact ⟨none, rfl⟩
      | _ => exact returns_tryText ev _ h

/-! ## Reports -/

variable {d : Dispatcher φ σ} {r q : RealmRef} {stack : Script.Stack} {w : World φ σ}
variable {e : ObjectRef} {t : String}

end ScriptHost
