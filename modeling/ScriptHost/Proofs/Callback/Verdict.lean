import ScriptHost.Proofs.Script.Interpreter
import ScriptHost.Proofs.World.Grows
import ScriptHost.Value.Text

/-!
# What a callback ends with

A callback records results and errors as often as it likes and in any order, and in between it
calls functions, runs sources and looks around.  All this is a list of deeds, each with what the
callback was told in return.  How the callback ends can be read off the list from behind: with the
last error, or if there is none with the last result, or if there is none either with undefined.

The list has the deeds of one invocation.  A call or a run is a single deed in it, with its
result, however many callbacks it invokes and whatever these record.  They have lists of their
own, even if the callback that is invoked is the same one.

Between its records a callback looks at what it was called with.  However often it looks, and
whatever has happened in between, it is told what it would have been told at first.
-/

namespace ScriptHost

variable {φ γ σ : Type}

/-! ## Deeds -/

namespace Deed

def result? : Deed φ γ → Option (Value φ)
  | .answered v => some v
  | _ => none

def error? : Deed φ γ → Option String
  | .failed message => some message
  | _ => none

def view? : Deed φ γ → Option (View φ)
  | .looked view => some view
  | _ => none

end Deed

/-- The last error; if there is none, the last result; if there is none either, undefined. -/
def verdict (deeds : List (Deed φ γ)) : Completion φ :=
  match (deeds.filterMap Deed.error?).getLast? with
  | some message => .thrown message
  | none => .returned ((deeds.filterMap Deed.result?).getLast?.getD .undefined)

/-! ## What is recorded -/

namespace Recorded

theorem error_note (r : Recorded φ) (d : Deed φ γ) : (r.note d).error = d.error?.or r.error := by
  cases d <;> rfl

theorem result_note (r : Recorded φ) (d : Deed φ γ) :
    (r.note d).result = d.result?.or r.result := by
  cases d <;> rfl

/-- A field that every deed overwrites or leaves alone has the last of what was written. -/
private theorem field_after {α : Type} {field : Recorded φ → Option α}
    {written : Deed φ γ → Option α}
    (hnote : ∀ (r : Recorded φ) d, field (r.note d) = (written d).or (field r))
    (deeds : List (Deed φ γ)) (r : Recorded φ) :
    field (r.after deeds) = (deeds.filterMap written).getLast?.or (field r) := by
  induction deeds generalizing r with
  | nil => rfl
  | cons d rest ih =>
      have hrest : field (r.after (d :: rest)) =
          (rest.filterMap written).getLast?.or ((written d).or (field r)) := by
        rw [← hnote]
        exact ih (r.note d)
      rw [hrest]
      cases hd : written d with
      | none => simp [hd]
      | some a => cases hlast : (rest.filterMap written).getLast? <;>
          simp [List.getLast?_cons, hd, hlast]

theorem error_after (deeds : List (Deed φ γ)) (r : Recorded φ) :
    (r.after deeds).error = (deeds.filterMap Deed.error?).getLast?.or r.error :=
  field_after error_note deeds r

theorem result_after (deeds : List (Deed φ γ)) (r : Recorded φ) :
    (r.after deeds).result = (deeds.filterMap Deed.result?).getLast?.or r.result :=
  field_after result_note deeds r

theorem completion_after (deeds : List (Deed φ γ)) :
    (({} : Recorded φ).after deeds).completion = verdict deeds := by
  rw [completion, error_after, result_after, Option.or_none, Option.or_none]
  rfl

end Recorded

/-! ## How callbacks end -/

theorem World.lt_size_of_native? {w : World φ σ} {r : RealmRef} {slot : UInt32} {f : φ}
    (h : (w.realm r).native? slot = some f) : r < w.realms.size := by
  by_contra hr
  rw [w.realm_of_size_le (Nat.le_of_not_lt hr)] at h
  cases h

/-- Wherever a callback looks, it is told its arguments and the realm that it was called from at
first, as realms keep their identifiers along its steps. -/
theorem Body.view_of_looked {s : Services φ γ σ} (hs : s.Grow) {i : Invocation φ}
    {first : World φ σ} (hr : i.realm < first.realms.size) (b : Body φ γ σ) {w : World φ σ}
    (hg : Grows first w) {view : View φ}
    (hview : view ∈ (b.deeds s (some i) w).filterMap Deed.view?) :
    view.realm = first.idOf i.realm ∧ view.arguments = i.arguments := by
  induction b generalizing w with
  | done => cases hview
  | look next ih =>
      rcases List.mem_cons.mp hview with hnow | hlater
      · cases hnow
        exact ⟨hg.id_eq i.realm hr, rfl⟩
      · exact ih _ hg hlater
  | answer v next ih => exact ih hg hview
  | fail message next ih => exact ih hg hview
  | call f vs next ih => exact ih _ (hg.trans (hs.call f vs w)) hview
  | run engine source next ih => exact ih _ (hg.trans (hs.run engine source w)) hview
  | «recall» next ih => exact ih _ hg hview
  | remember f next ih =>
      have hhost : Grows w { w with host := f w.host } := .of_realms_eq rfl rfl List.suffix_rfl
      exact ih (hg.trans hhost) hview
  | make f next ih => exact ih _ (hg.trans (Grows.frame.host w _ _)) hview
  | enter realm' next ih =>
      have henter : Grows w (w.enter realm').2 := .of_realms_eq rfl rfl List.suffix_rfl
      exact ih _ (hg.trans henter) hview
  | leave g next ih =>
      have hleave : Grows w (w.leave g) := .of_realms_eq rfl rfl List.suffix_rfl
      exact ih (hg.trans hleave) hview

/-! ## Every invocation -/

/-- Calling a slot without callback is recorded as an error and fails. -/
theorem World.invoke_unregistered {host : Host φ γ σ} {s : Services φ γ σ} {w : World φ σ}
    {r : RealmRef} {slot : UInt32} (h : (w.realm r).native? slot = none)
    (arguments : List (Value φ)) :
    w.invoke host s r slot arguments =
      (w.record (.unregistered (w.idOf r) slot), .thrown (notRegistered slot)) := by
  rw [World.invoke, World.invokeProbed, h]

/-- A callback ends with the last error that it has recorded, else with the last result, else with
undefined, whatever the calls and runs do that it makes, and wherever it looks it sees the realm
that it was called from and the arguments that it was called on.  A slot without callback fails
with an error, which is the one thing that is recorded, and no callback runs. -/
theorem last_error_else_last_result [Machine] [LawfulMachine] (host : Host φ γ σ) (n : Nat)
    (left : Script.Stack) (w : World φ σ) (r : RealmRef) (slot : UInt32)
    (arguments : List (Value φ)) :
    (∀ f, (w.realm r).native? slot = some f →
      (w.invoke host (services host (dispatcher host n) left) r slot arguments).2 =
        verdict ((host.behave f ⟨r, arguments⟩).deeds
          (services host (dispatcher host n) left) (some ⟨r, arguments⟩) w) ∧
      ∀ view ∈ ((host.behave f ⟨r, arguments⟩).deeds
          (services host (dispatcher host n) left) (some ⟨r, arguments⟩) w).filterMap Deed.view?,
        view.realm = w.idOf r ∧ view.arguments = arguments) ∧
    ((w.realm r).native? slot = none →
      (Event.unregistered (w.idOf r) slot).level = .error ∧
      ∀ host' : Host φ γ σ, w.invoke host' (services host' (dispatcher host' n) left) r slot
          arguments =
        (w.record (.unregistered (w.idOf r) slot),
          .thrown ("native function " ++ slot.toNat.repr ++ " is not registered"))) := by
  refine ⟨fun f hf => ⟨?_, fun view hview => ?_⟩, fun hnone => ⟨rfl, fun host' => ?_⟩⟩
  · rw [← Recorded.completion_after, World.invoke, World.invokeProbed, hf]
    rfl
  · have hgrow := services_grow host (dispatcher_grows host n) left
    exact Body.view_of_looked (i := ⟨r, arguments⟩) hgrow (World.lt_size_of_native? hf) _ (.refl w)
      hview
  · exact World.invoke_unregistered hnone arguments

/-- A host of one callback.  Called with a function it answers null, calls the function, looks
around, and answers a text; called without one it fails. -/
def nestingHost : Host Unit Unit Unit where
  behave _ i :=
    match i.argument 0 with
    | .function _ f =>
      .answer .null (.call f [] fun _ => .look fun _ => .answer (.string 0 "outer") .done)
    | _ => .fail "inner" .done
  generate _ _ s := ⟨.empty, 0, s⟩

/-- A realm with that callback, at work. -/
def nestingWorld : World Unit Unit :=
  { (nestingHost.createRealm {} (.entry "f" (.callback ()) .empty) (.start ())).1 with
    active := [0] }

/-- The callback is called with itself, and fails inside. -/
def nestingDeeds : List (Deed Unit Unit) :=
  let i : Invocation Unit := ⟨0, [.function 0 (.captured 0 Script.Heap.standard.size)]⟩
  (nestingHost.behave () i).deeds
    (services nestingHost (dispatcher nestingHost 1) (Machine.stack {})) (some i) nestingWorld

/-- The call of itself ends with the error that it records, and the callback with its own result. -/
theorem last_error_else_last_result_nestingHost :
    (nestingWorld.realm 0).native? 0 = some () ∧ (nestingWorld.realm 0).native? 1 = none ∧
      (nestingWorld.invoke nestingHost (services nestingHost (dispatcher nestingHost 1)
        (Machine.stack {})) 0 0 [.function 0 (.captured 0 Script.Heap.standard.size)]).2 =
          verdict nestingDeeds ∧
      (nestingWorld.invoke nestingHost (services nestingHost (dispatcher nestingHost 1)
        (Machine.stack {})) 0 1 []).1.log = .unregistered 1 1 :: nestingWorld.log ∧
      nestingDeeds.filterMap Deed.error? = [] ∧
      (nestingDeeds.filterMap Deed.view?).map View.realm = [1] ∧
      (nestingDeeds.filterMap Deed.result?).map Value.display = ["null", "outer"] ∧
      nestingDeeds.any (fun d => match d with
        | .called _ _ (.error e) => e.message.startsWith "js: exception: Error: inner"
        | _ => false) = true := by
  obtain ⟨hslot, hnone, hid, hfacts⟩ :
      (nestingWorld.realm 0).native? 0 = some () ∧ (nestingWorld.realm 0).native? 1 = none ∧
      nestingWorld.idOf 0 = 1 ∧ nestingDeeds.filterMap Deed.error? = [] ∧
      (nestingDeeds.filterMap Deed.view?).map View.realm = [1] ∧
      (nestingDeeds.filterMap Deed.result?).map Value.display = ["null", "outer"] ∧
      nestingDeeds.any (fun d => match d with
        | .called _ _ (.error e) => e.message.startsWith "js: exception: Error: inner"
        | _ => false) = true := by
    decide +kernel
  have hcalled := (last_error_else_last_result nestingHost 1 (Machine.stack {}) nestingWorld 0 0
    [.function 0 (.captured 0 Script.Heap.standard.size)]).1 () hslot
  have hmissing := (last_error_else_last_result nestingHost 1 (Machine.stack {}) nestingWorld 0 1
    []).2 hnone
  refine ⟨hslot, hnone, hcalled.1, ?_, hfacts⟩
  rw [hmissing.2 nestingHost, hid]
  rfl

end ScriptHost
