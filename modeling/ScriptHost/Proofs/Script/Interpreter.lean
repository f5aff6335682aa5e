import ScriptHost.Proofs.Script.Conduct.Statement
import ScriptHost.Proofs.Script.HostError
import ScriptHost.Proofs.Script.Lawful
import ScriptHost.Proofs.Script.Rename.Program

/-!
# The interpreter is lawful

Every rule of the language conducts itself and does not depend on the names of realms if the
evaluation of its parts does; the interpreter ties the rules together.
-/

namespace ScriptHost

open Script (Action Callable Heap Stack Val)

/-- Whether a source can be read depends on the source, the stack and the memory. -/
theorem load_rename (ρ : UInt32 → UInt32) (stack : Stack) (source : String) (h : Heap) :
    Script.load stack source (h.rename ρ) = Script.load stack source h := rfl

/-- A source that can be read is run as the program that it spells. -/
theorem load_eq_ok {stack : Stack} {source : String} {h : Heap}
    {program : Action Val} (hload : Script.load stack source h = .ok program) :
    ∃ body, program = Script.runProgram stack body := by
  unfold Script.load at hload
  split at hload
  · split at hload
    · cases hload
      exact ⟨_, rfl⟩
    · cases hload
  · cases hload

namespace Script

variable {h : Heap} {frames : List Units} {n : Nat}

/-- A function is called in what its call leaves of the stack, if there is enough. -/
theorem call_callable {f : Val} {c : Callable} (hf : h.callable? f = some c)
    (hroom : c.weight ≤ n + 1) (receiver : Val) (vs : List Val) :
    (evaluator ⟨n + 1, frames⟩).call f receiver vs h =
      callRule (nestedEvaluator n ⟨n + 1 - c.weight, h.frames f ++ frames⟩) f receiver vs h := by
  have hweight : h.callWeight f = c.weight := by
    rw [Heap.callWeight, hf, Option.map_some, Option.getD_some]
  change withinRoom ⟨n + 1, frames⟩ f
    (fun stack => callRule (nestedEvaluator n stack) f receiver vs) h = _
  refine (Action.bind_finished (rfl : Action.read _ h = _)).trans ?_
  simp only [Heap.stackIn?, hweight, if_neg (Nat.not_lt_of_le hroom)]

theorem callable?_of_native? {f : ObjectRef} {k : NativeKey} (hk : h.native? f = some k) :
    h.callable? (.object f) = some (.native k) := by
  unfold Heap.native? at hk
  split at hk
  · rename_i k' hkind
    rw [← Option.some.inj hk, Heap.callable?, Object.callable?, hkind]
  · cases hk

/-- A function is called, unless there is too little stack left. -/
theorem evaluator_call (stack : Stack) {f : Val} {c : Callable} (hf : h.callable? f = some c)
    (receiver : Val) (vs : List Val) :
    (∃ r : Refusal, (evaluator stack).call f receiver vs h = r.raise h) ∨
      ∃ inside : Evaluator, (evaluator stack).call f receiver vs h =
        callRule inside f receiver vs h := by
  obtain ⟨room, frames⟩ := stack
  have hrefused : (raiseTooDeep : Action Val) h =
      (Refusal.error .range "Maximum call stack size exceeded" none).raise h := rfl
  cases room with
  | zero => exact .inl ⟨_, hrefused⟩
  | succ n =>
      by_cases hroom : c.weight ≤ n + 1
      · exact .inr ⟨_, call_callable hf hroom receiver vs⟩
      · refine .inl ⟨_, Eq.trans ?_ hrefused⟩
        have hweight : h.callWeight f = c.weight := by
          rw [Heap.callWeight, hf, Option.map_some, Option.getD_some]
        change withinRoom ⟨n + 1, frames⟩ f
          (fun stack => callRule (nestedEvaluator n stack) f receiver vs) h = _
        refine (Action.bind_finished (rfl : Action.read _ h = _)).trans ?_
        simp only [Heap.stackIn?, hweight, if_pos (Nat.lt_of_not_le hroom)]

/-- The two setters of an empty realm are called like any other function. -/
theorem evaluator_sets (stack : Stack) : (evaluator stack).Sets := by
  intro h setter b hb _ receiver vs
  refine (evaluator_call stack hb receiver vs).imp_right fun ⟨inside, hcall⟩ => ⟨inside, ?_⟩
  refine hcall.trans ((Action.bind_finished (rfl : Action.read _ h = _)).trans ?_)
  rw [hb]

/-- Host functions are called like any other function. -/
theorem evaluator_asks (stack : Stack) : (evaluator stack).Asks := by
  intro h f k hk receiver vs
  have hf := callable?_of_native? hk
  refine (evaluator_call stack hf receiver vs).imp_right fun ⟨inside, hcall⟩ => ⟨inside, ?_⟩
  refine hcall.trans ((Action.bind_finished (rfl : Action.read _ h = _)).trans ?_)
  rw [hf]

end Script

instance interpreter_lawful : LawfulMachine where
  conducts _ stack := Script.evaluator_conducts stack
  load_conducts _ _ _ _ _ hload := by
    obtain ⟨body, rfl⟩ := load_eq_ok hload
    exact Script.runProgram_conducts _ body
  uniform _ stack := Script.evaluator_uniform stack
  sets := Script.evaluator_sets
  asks := Script.evaluator_asks
  load_rename := load_rename
  load_uniform _ _ _ _ _ hload := by
    obtain ⟨body, rfl⟩ := load_eq_ok hload
    exact Script.runProgram_uniform _ body
  nests := by decide

end ScriptHost
