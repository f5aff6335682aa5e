import ScriptHost.Boundary.Outward
import ScriptHost.Boundary.Report
import ScriptHost.Proofs.Script.Conduct.Function
import ScriptHost.Proofs.Script.Pristine
import ScriptHost.Proofs.Script.Rename.Property

/-!
# Engines that conduct themselves

What is proved about hosts is proved for every engine, given four things that a language keeps
to however it is run, and that host calls can be answered at all.  Code gets at objects only
through what it is handed and what is in the heap, makes no host functions of its own, and
leaves those that there are as they are.  It cannot tell host functions apart by what the host
calls their realms.  And the setters that every realm starts with do what they do everywhere,
and calling a host function asks the host.

Beside sources and calls of functions, the program itself starts code in a realm for two
reasons: to report what was thrown, and to make a string well formed.
-/

namespace ScriptHost

open Script (Action Evaluator Heap Post RefRule Stack Val)

/-- An engine whose code conducts itself and does not depend on the names of realms, and which
calls the setters of an empty realm and host functions as the language says.  There is a stack
for host calls. -/
class LawfulMachine [Machine] : Prop where
  conducts (R : RefRule) (stack : Stack) : (Machine.evaluator stack).Conducts R
  sets (stack : Stack) : (Machine.evaluator stack).Sets
  asks (stack : Stack) : (Machine.evaluator stack).Asks
  load_conducts (R : RefRule) {stack : Stack} {source : String} {h : Heap} {program : Action Val} :
    Machine.load stack source h = .ok program → Action.Conducts R h (.val R) program
  uniform (ρ : UInt32 → UInt32) (stack : Stack) : (Machine.evaluator stack).Uniform ρ
  load_rename (ρ : UInt32 → UInt32) (stack : Stack) (source : String) (h : Heap) :
    Machine.load stack source (h.rename ρ) = Machine.load stack source h
  load_uniform (ρ : UInt32 → UInt32) {stack : Stack} {source : String} {h : Heap}
    {program : Action Val} :
    Machine.load stack source h = .ok program → Action.Uniform ρ program
  nests : 0 < Machine.nesting

variable {R : RefRule} {ρ : UInt32 → UInt32} {h : Heap} {ev : Evaluator}

/-! ## Sources -/

theorem refusal_conducts (r : Script.Refusal) : Action.Conducts R h (.val R) r.raise := by
  cases r with
  | error t message stack =>
      exact (Script.newError_conducts t _ _).bind fun _ _ _ _ he => .raise he
  | bare => exact .raise trivial

theorem refusal_uniform (r : Script.Refusal) : Action.Uniform ρ r.raise := by
  cases r with
  | error t message stack => exact (Script.newError_uniform t _ _).bind fun e => .raise e
  | bare => exact .raise _

section Sources

variable [Machine] [LawfulMachine]

theorem runSource_conducts (stack : Stack) (source : String) :
    Action.Conducts R h (.val R) (Machine.runSource stack source) := by
  intro h' hl hs
  unfold Machine.runSource
  split
  · exact LawfulMachine.load_conducts R ‹_› h' (.refl h') hs
  · exact refusal_conducts _ h' (.refl h') hs

theorem runSource_uniform (stack : Stack) (source : String) :
    Action.Uniform ρ (Machine.runSource stack source) := by
  intro h
  unfold Machine.runSource
  rw [LawfulMachine.load_rename ρ]
  split
  · exact LawfulMachine.load_uniform ρ ‹_› h
  · exact refusal_uniform _ h

end Sources

/-! ## Reports -/

theorem tryProperty_conducts (hev : ev.Conducts R) {v : Val} (hv : v.Sound R h.size)
    (name : String) : Action.Conducts R h (.option (.val R)) (tryProperty ev v name) := by
  refine (Script.getProperty_conducts hev hv _).outcome.bind fun _ o _ _ ho => ?_
  split
  · exact .pure fun x hx => by cases hx; exact ho
  · exact .pure fun x hx => absurd hx (Option.not_mem_none x)

theorem tryText_conducts (hev : ev.Conducts R) {v : Val} (hv : v.Sound R h.size) :
    Action.Conducts R h .any (tryText ev v) := by
  refine (Script.toUnits_conducts hev hv).outcome.bind fun _ o _ _ _ => ?_
  split <;> exact .pure trivial

theorem tryTextOf_conducts (hev : ev.Conducts R) {v : Val} (hv : v.Sound R h.size)
    (name : String) : Action.Conducts R h .any (tryTextOf ev v name) := by
  refine (tryProperty_conducts hev hv name).bind fun _ x _ _ hx => ?_
  split
  · exact .pure trivial
  · exact .pure trivial
  · exact .pure trivial
  · exact tryText_conducts hev (hx _ rfl)

theorem reportOf_conducts (hev : ev.Conducts R) {v : Val} (hv : v.Sound R h.size) :
    Action.Conducts R h .any (reportOf ev v) := by
  refine .read_bind fun h₁ hl₁ _ => .ite (fun _ => ?_) fun _ => ?_
  · have hv₁ := hv.mono hl₁.size_le
    refine (tryProperty_conducts hev hv₁ _).bind fun h₂ name hl₂ _ _ => ?_
    have hv₂ := hv₁.mono hl₂.size_le
    refine (tryTextOf_conducts hev hv₂ _).bind fun h₃ message hl₃ _ _ => ?_
    exact (tryTextOf_conducts hev (hv₂.mono hl₃.size_le) _).bind fun _ _ _ _ _ => .pure trivial
  · exact .read_bind fun _ _ _ => .pure trivial

theorem conversionTypeName_rename (h : Heap) (v : Val) :
    conversionTypeName (h.rename ρ) v = conversionTypeName h v := by
  cases v with
  | object r =>
      simp only [conversionTypeName, h.object_rename, Script.Object.kind_rename]
      cases (h.object r).kind with
      | function c => simp only [Script.ObjectKind.rename, Script.Callable.constructs_rename]
      | _ => rfl
  | _ => rfl

theorem shownValue_rename (h : Heap) (v : Val) :
    shownValue (h.rename ρ) v = shownValue h v := by
  cases v with
  | object r => simp only [shownValue, shownObject, conversionTypeName_rename]
  | _ => rfl

theorem tryProperty_uniform (hev : ev.Uniform ρ) (v : Val) (name : String) :
    Action.Uniform ρ (tryProperty ev v name) := by
  refine (Script.getProperty_uniform hev v _).outcome.bind fun o => ?_
  split <;> exact .pure _

theorem tryText_uniform (hev : ev.Uniform ρ) (v : Val) : Action.Uniform ρ (tryText ev v) := by
  refine (Script.toUnits_uniform hev v).outcome.bind fun o => ?_
  split <;> exact .pure _

theorem tryTextOf_uniform (hev : ev.Uniform ρ) (v : Val) (name : String) :
    Action.Uniform ρ (tryTextOf ev v name) := by
  refine (tryProperty_uniform hev v name).bind fun x => ?_
  split
  · exact .pure _
  · exact .pure _
  · exact .pure _
  · exact tryText_uniform hev _

theorem reportOf_uniform (hev : ev.Uniform ρ) (v : Val) : Action.Uniform ρ (reportOf ev v) := by
  refine (Action.Uniform.read fun h => ?_).bind fun isError => .ite ?_ ?_
  · cases v with
    | object r =>
        change ((h.rename ρ).object r).isError = _
        rw [h.object_rename, Script.Object.isError_rename]
        rfl
    | _ => rfl
  · refine (tryProperty_uniform hev v _).bind fun name => ?_
    refine (tryTextOf_uniform hev v _).bind fun message => ?_
    exact (tryTextOf_uniform hev v _).bind fun _ => .pure _
  · exact (Action.Uniform.read fun h => shownValue_rename h v).bind fun _ => .pure _

/-! ## Strings -/

theorem textOfReplaced_rename (h : Heap) (v : Val) :
    textOfReplaced (h.rename ρ) v = textOfReplaced h v := by
  cases v with
  | string s => rfl
  | _ => simp only [textOfReplaced, conversionTypeName_rename]

variable [Machine] [LawfulMachine]

theorem makeWellFormed_conducts (stack : Stack) (s : Units) :
    Action.Conducts R h .any (makeWellFormed stack s) := by
  refine (runSource_conducts stack _).bind fun h₁ f _ _ hf => .read_bind fun h₂ hl₂ _ => ?_
  refine .ite (fun _ => ?_) fun _ => .read fun _ _ _ => trivial
  have hreceiver : Val.undefined.Sound R h₂.size := trivial
  refine ((LawfulMachine.conducts R stack).call (Val.Sound.mono hf hl₂.size_le) hreceiver
    fun v hv => ?_).bind fun _ _ _ _ _ => .read fun _ _ _ => trivial
  rw [List.mem_singleton.mp hv]
  trivial

theorem makeWellFormed_uniform (stack : Stack) (s : Units) :
    Action.Uniform ρ (makeWellFormed stack s) := by
  refine (runSource_uniform stack _).bind fun f => (Script.isCallable_uniform f).bind fun _ => ?_
  refine .ite ?_ (.read fun h => ?_)
  · exact ((LawfulMachine.uniform ρ stack).call _ _ _).bind fun v =>
      .read fun h => textOfReplaced_rename h v
  · rw [conversionTypeName_rename]

end ScriptHost
