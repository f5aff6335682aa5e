import Mathlib
import ScriptHost.Callback.Body

/-!
# Hosts that make no functions up

A host holds functions of realms.  It gets them from the program, as arguments of
callbacks and as results of runs and calls, and it can keep them: in what it remembers, in
the data of a callback, and in the data of a generator.  It cannot make one up.

`Knowledge` says what is kept where.  `Body.Honest K` says that a callback that has got
hold of the functions in `K` hands over no others; whatever it is given on the way is added.
Every host is honest with respect to `Knowledge.all`, by which everything is known.
-/

namespace ScriptHost

variable {φ γ σ : Type}

/-- Functions, by their realm and their object. -/
abbrev Functions := RealmRef → ObjectRef → Prop

/-! ## The functions in a value -/

/-- The function of a realm that is held. -/
def FunctionRef.Leads : FunctionRef → Functions
  | .captured r o => fun s p => s = r ∧ p = o
  | .foreign _ => fun _ _ => False

mutual
/-- The functions that a value leads to, where `know` tells what callbacks know. -/
def Value.Leads (know : φ → Functions) : Value φ → Functions
  | .function _ f => f.Leads
  | .object _ exports => exports.Leads know
  | .null => fun _ _ => False
  | .undefined => fun _ _ => False
  | .number _ _ => fun _ _ => False
  | .string _ _ => fun _ _ => False

/-- The functions that exports lead to. -/
def Namespace.Leads (know : φ → Functions) : Namespace φ → Functions
  | .empty => fun _ _ => False
  | .entry _ item rest => fun r o => item.Leads know r o ∨ rest.Leads know r o

/-- The functions that one export leads to. -/
def Export.Leads (know : φ → Functions) : Export φ → Functions
  | .value v => v.Leads know
  | .callback f => know f
  | .nested n => n.Leads know
end

/-! ## What a host knows -/

/-- The functions that the parts of a host keep. -/
structure Knowledge (φ γ σ : Type) where
  callback : φ → Functions
  generator : γ → Functions
  host : σ → Functions

/-- By this, everything is known from the start. -/
def Knowledge.all : Knowledge φ γ σ := ⟨fun _ => ⊤, fun _ => ⊤, fun _ => ⊤⟩

/-- A result leads to known functions only. -/
def Known (know : Knowledge φ γ σ) (K : Functions) (x : Except Failure (Value φ)) : Prop :=
  ∀ v, x = .ok v → v.Leads know.callback ≤ K

/-- Of the functions in `K` and those that it is given, and of no others, the callback hands
something over. -/
def Body.Honest (know : Knowledge φ γ σ) : Functions → Body φ γ σ → Prop
  | _, .done => True
  | K, .answer v next => v.Leads know.callback ≤ K ∧ next.Honest know K
  | K, .fail _ next => next.Honest know K
  | K, .call f vs next =>
    f.Leads ≤ K ∧ (∀ v ∈ vs, v.Leads know.callback ≤ K) ∧
      ∀ K' x, K ≤ K' → Known know K' x → (next x).Honest know K'
  | K, .run engine _ next =>
    know.generator engine.generator ≤ K ∧
      ∀ K' x, K ≤ K' → Known know K' x → (next x).Honest know K'
  | K, .look next =>
    ∀ x, (∀ v ∈ x.arguments, v.Leads know.callback ≤ K) → (next x).Honest know K
  | K, .recall next => ∀ K' s, K ≤ K' → know.host s ≤ K' → (next s).Honest know K'
  | K, .remember f next =>
    (∀ K' s, K ≤ K' → know.host s ≤ K' → know.host (f s) ≤ K') ∧ next.Honest know K
  | K, .make f next =>
    ∀ K' id s, K ≤ K' → know.host s ≤ K' →
      know.host (f id s).host ≤ K' ∧ (f id s).value.Leads know.callback ≤ K' ∧
        (next (f id s).value).Honest know K'
  | K, .enter _ next => ∀ g, (next g).Honest know K
  | K, .leave _ next => next.Honest know K

/-- Callbacks, generators and functions of other backends hand over what they know and what they
are given.  A function of another backend knows what the host remembers. -/
structure Host.Honest (know : Knowledge φ γ σ) (host : Host φ γ σ) : Prop where
  behave (K : Functions) (f : φ) (i : Invocation φ) : know.callback f ≤ K →
    (∀ v ∈ i.arguments, v.Leads know.callback ≤ K) → (host.behave f i).Honest know K
  prepare (K : Functions) (g : γ) : know.generator g ≤ K → (host.prepare g).Honest know K
  generate (K : Functions) (g : γ) (id : ValueId) (s : σ) : know.generator g ≤ K →
    know.host s ≤ K → (host.generate g id s).exports.Leads know.callback ≤ K ∧
      know.host (host.generate g id s).host ≤ K
  act (K : Functions) (backend : String) (arguments : List (Value φ)) (s : σ) :
    know.host s ≤ K → (∀ v ∈ arguments, v.Leads know.callback ≤ K) →
      (host.act backend arguments).Honest know K
  outcome (K : Functions) (c : Completion φ) (s : σ) :
    (∀ v, c = .returned v → v.Leads know.callback ≤ K) → know.host s ≤ K →
      Known know K (host.outcome c s)

/-- What comes of the steps of a function is known if its steps return what is known. -/
theorem Completion.known_result {know : Knowledge φ γ σ} {K : Functions} {c : Completion φ}
    (hc : ∀ v, c = .returned v → v.Leads know.callback ≤ K) : Known know K c.result := by
  intro v hv
  cases c with
  | returned v' =>
      cases hv
      exact hc v rfl
  | thrown message => cases hv

/-! ## Every host is honest if everything is known -/

/-- Every callback is honest if everything is known. -/
theorem Body.honest_all (b : Body φ γ σ) : b.Honest .all ⊤ := by
  induction b with
  | done => trivial
  | answer v next ih => exact ⟨le_top, ih⟩
  | fail message next ih => exact ih
  | call f vs next ih =>
      exact ⟨le_top, fun _ _ => le_top, fun K' x hK _ => top_le_iff.mp hK ▸ ih x⟩
  | run engine source next ih =>
      exact ⟨le_top, fun K' x hK _ => top_le_iff.mp hK ▸ ih x⟩
  | look next ih => exact fun x _ => ih x
  | «recall» next ih => exact fun K' s hK _ => top_le_iff.mp hK ▸ ih s
  | remember f next ih => exact ⟨fun K' s hK _ => le_trans le_top hK, ih⟩
  | make f next ih =>
      intro K' id s hK _
      obtain rfl := top_le_iff.mp hK
      exact ⟨le_top, le_top, ih _⟩
  | enter realm next ih => exact ih
  | leave g next ih => exact ih

theorem Host.honest_all (host : Host φ γ σ) : host.Honest .all where
  behave _ f i hK _ := top_le_iff.mp hK ▸ (host.behave f i).honest_all
  prepare _ g hK := top_le_iff.mp hK ▸ (host.prepare g).honest_all
  generate _ _ _ _ hK _ := ⟨le_trans le_top hK, le_trans le_top hK⟩
  act _ backend arguments _ hK _ := top_le_iff.mp hK ▸ (host.act backend arguments).honest_all
  outcome _ _ _ _ hK := fun _ _ => le_trans le_top hK

end ScriptHost
