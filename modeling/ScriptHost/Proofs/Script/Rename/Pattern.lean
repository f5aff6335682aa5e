import ScriptHost.Proofs.Script.Rename.Function
import ScriptHost.Script.Builtin.Pattern

/-!
# Functions of patterns do not depend on the names of realms

A pattern is found by its kind, which is renamed only where it is a host function.
-/

namespace ScriptHost.Script

variable {ρ : UInt32 → UInt32} {ev : Evaluator}

@[simp] theorem Heap.pattern?_rename (h : Heap) (v : Val) :
    (h.rename ρ).pattern? v = h.pattern? v := by
  cases v with
  | object r =>
      simp only [Heap.pattern?, Heap.object_rename, Object.kind_rename]
      cases (h.object r).kind <;> rfl
  | _ => rfl

@[simp] theorem Heap.execIntact_rename (h : Heap) (v : Val) :
    (h.rename ρ).execIntact v = h.execIntact v := by
  cases v with
  | object r =>
      simp only [Heap.execIntact, Heap.findProperty?_rename]
      split
      · rw [Heap.callable?_rename]
        cases h.callable? _ with
        | none => rfl
        | some c => cases c <;> rfl
      · rfl
  | _ => rfl

/-! ## Flags -/

theorem patternFlag_uniform (receiver : Val) (flag : Char) :
    Action.Uniform ρ (patternFlag receiver flag) := by
  refine (Action.Uniform.read fun h => h.pattern?_rename receiver).bind fun l => ?_
  split
  · exact .pure _
  · exact .ite (.pure _) (raiseError_uniform _ _)

theorem patternFlags_uniform (hev : ev.Uniform ρ) (receiver : Val) :
    Action.Uniform ρ (patternFlags ev receiver) := by
  unfold patternFlags
  split
  · refine (Action.Uniform.each (fun f => ?_) _).bind fun _ => .pure _
    exact (getProperty_uniform hev _ _).bind fun _ => .pure _
  · exact raiseError_uniform _ _

/-! ## Looking for a match -/

theorem toIndex_uniform (hev : ev.Uniform ρ) (v : Val) : Action.Uniform ρ (toIndex ev v) :=
  (toDouble_uniform hev v).bind fun _ => .pure _

theorem lastIndexOf_uniform (hev : ev.Uniform ρ) (receiver : Val) :
    Action.Uniform ρ (lastIndexOf ev receiver) :=
  (getProperty_uniform hev receiver _).bind fun n => toIndex_uniform hev n

theorem setLastIndex_uniform (hev : ev.Uniform ρ) (receiver : Val) (all : Bool) (n : Nat) :
    Action.Uniform ρ (setLastIndex ev receiver all n) :=
  .ite (setProperty_uniform hev receiver _ _) (.pure _)

theorem matchObject_uniform (f : Found) (s : Units) : Action.Uniform ρ (matchObject f s) := by
  refine (newArray_uniform _).bind fun m => ?_
  split
  · refine (Action.Uniform.modify _ fun o => ?_).bind fun _ => .pure _
    simp only [Object.rename_put]
  · exact .pure _

theorem patternExec_uniform (hev : ev.Uniform ρ) (receiver : Val) (s : Units) :
    Action.Uniform ρ (patternExec ev receiver s) := by
  refine (Action.Uniform.read fun h => h.pattern?_rename receiver).bind fun l => ?_
  split
  · exact raiseError_uniform _ _
  · refine (lastIndexOf_uniform hev receiver).bind fun last => ?_
    split
    · exact (setLastIndex_uniform hev receiver _ _).bind fun _ => .pure _
    · exact (setLastIndex_uniform hev receiver _ _).bind fun _ => matchObject_uniform _ s

/-! ## Replacing -/

theorem execOf_uniform (hev : ev.Uniform ρ) (receiver : Val) (s : Units) :
    Action.Uniform ρ (execOf ev receiver s) := by
  refine (getProperty_uniform hev receiver _).bind fun f => (isCallable_uniform f).bind fun _ => ?_
  refine .ite ((hev.call _ _ _).bind fun m => ?_) (patternExec_uniform hev receiver s)
  split
  · exact .pure _
  · exact .pure _
  · exact raiseError_uniform _ _

theorem foundIn_uniform (hev : ev.Uniform ρ) (m : Val) : Action.Uniform ρ (foundIn ev m) :=
  (getProperty_uniform hev m _).bind fun t => (toUnits_uniform hev t).bind fun _ =>
    (getProperty_uniform hev m _).bind fun i => (toIndex_uniform hev i).bind fun _ => .pure _

theorem passMatch_uniform (hev : ev.Uniform ρ) (receiver m : Val) :
    Action.Uniform ρ (passMatch ev receiver m) :=
  (getProperty_uniform hev m _).bind fun t => (toUnits_uniform hev t).bind fun _ =>
    .ite ((lastIndexOf_uniform hev receiver).bind fun _ => setLastIndex_uniform hev receiver _ _)
      (.pure _)

/-- However often `exec` is called, it is called alike. -/
theorem execAll_uniform (hev : ev.Uniform ρ) (receiver : Val) (all : Bool) (s : Units) (n : Nat)
    (found : List Val) : Action.Uniform ρ (execAll ev receiver all s n found) := by
  induction n generalizing found with
  | zero => exact raiseTooDeep_uniform
  | succ n ih =>
      refine (execOf_uniform hev receiver s).bind fun m => .ite (.pure _) (.ite ?_ (.pure _))
      exact (passMatch_uniform hev receiver m).bind fun _ => ih _

theorem matchesOf_uniform (hev : ev.Uniform ρ) (receiver : Val) (all : Bool) (s : Units) :
    Action.Uniform ρ (matchesOf ev receiver all s) := by
  refine (Action.Uniform.read fun h => ?_).bind fun l => ?_
  · rw [h.execIntact_rename, h.pattern?_rename]
  · split
    · exact .pure _
    · exact (execAll_uniform hev receiver all s _ _).bind fun found =>
        .each (fun m => foundIn_uniform hev m) found

theorem templateOf_uniform (hev : ev.Uniform ρ) (v : Val) :
    Action.Uniform ρ (templateOf ev v) :=
  (isCallable_uniform v).bind fun _ =>
    .ite (.pure _) ((toUnits_uniform hev v).bind fun _ => .pure _)

theorem replacementFor_uniform (hev : ev.Uniform ρ) (replacement : Val) (template : Option Units)
    (s : Units) (f : Found) : Action.Uniform ρ (replacementFor ev replacement template s f) := by
  unfold replacementFor
  split
  · exact .pure _
  · exact (hev.call _ _ _).bind fun v => (toUnits_uniform hev v).bind fun _ => .pure _

theorem patternReplace_uniform (hev : ev.Uniform ρ) (receiver s replacement : Val) :
    Action.Uniform ρ (patternReplace ev receiver s replacement) := by
  unfold patternReplace
  split
  · refine (toUnits_uniform hev s).bind fun s => ?_
    refine (templateOf_uniform hev replacement).bind fun t => ?_
    refine (getProperty_uniform hev _ _).bind fun flags => ?_
    refine (toUnits_uniform hev flags).bind fun flags => ?_
    refine (setLastIndex_uniform hev _ _ _).bind fun _ => ?_
    refine (matchesOf_uniform hev _ _ s).bind fun found => ?_
    exact (Action.Uniform.each (replacementFor_uniform hev replacement t s) found).bind
      fun _ => newString_uniform hev _
  · exact raiseError_uniform _ _

end ScriptHost.Script
