import ScriptHost.Proofs.Boundary.Faithful
import ScriptHost.Proofs.Boundary.Reachable
import ScriptHost.Proofs.Callback.Lookup
import ScriptHost.Proofs.Number.Integer

/-!
# Values that go into a realm and out again

What a host value turns into in a realm is only of interest for what comes out again.
`Value.relayed` says what that is: null, undefined, strings and numbers are themselves, a
function of the realm is the same object of it, any other function is undefined, and an
object is null, because from outside an object of a realm is not looked into.

A value goes in unless the engine has no memory for it, and an object also needs names that can
be assigned.

The two conversions are apart in time.  Between them scripts and callbacks run, and heaps
change under the script value, so what is shown of a script value is what it stands for
*from now on*: in every later world it comes out as the same host value.  That is why it does
not matter how often it is handed on; scripts and callbacks that return what they get hand on
a value that stands for the same.
-/

namespace ScriptHost

open Script (Ground Heap Val)

variable {φ γ σ : Type}

/-! ## What comes out -/

/-- The value with its identity left out. -/
def Value.anonymous : Value φ → Value φ
  | .null => .null
  | .undefined => .undefined
  | .number _ x => .number 0 x
  | .string _ s => .string 0 s
  | .function _ f => .function 0 f
  | .object _ exports => .object 0 exports

/-- Two values differ at most in their identities. -/
def Value.Alike (v v' : Value φ) : Prop := v.anonymous = v'.anonymous

/-- A function of the realm is one. -/
def Value.FitsIn (r : RealmRef) (w : World φ σ) (v : Value φ) : Prop :=
  ∀ o, v.function? = some (.captured r o) → (w.heap r).isCallable (.object o) = true

def Value.isObject : Value φ → Bool
  | .object _ _ => true
  | _ => false

theorem Value.FitsIn.later {r : RealmRef} {w w' : World φ σ} {v : Value φ} (hv : v.FitsIn r w)
    (hl : w.Later w') : v.FitsIn r w' := by
  intro o ho
  obtain ⟨c, hc⟩ := Option.isSome_iff_exists.mp (hv o ho)
  exact Option.isSome_iff_exists.mpr ⟨c, (hl.heaps r).callable? hc⟩

variable {d : Dispatcher φ σ} {r : RealmRef} {stack : Script.Stack} {w w' : World φ σ} {x : Val}
variable {v v' : Value φ}

/-! ## What script values stand for -/

section Machine

variable [Machine]

/-- From now on the script value comes out as a value like the given one, and nothing
happens on the way but that a value is made. -/
def StandsFor (r : RealmRef) (w : World φ σ) (x : Val) (v : Value φ) : Prop :=
  ∀ (d : Dispatcher φ σ) (stack : Script.Stack) (w' : World φ σ), w.Later w' →
    ∃ v' n, Crossing.toValue ⟨d, r, r, stack⟩ x w' = ({ w' with nextValue := n }, .ok v') ∧
      v'.Alike v

namespace StandsFor

theorem later (h : StandsFor r w x v) (hl : w.Later w') : StandsFor r w' x v :=
  fun d stack w'' hl' => h d stack w'' (hl.trans hl')

theorem alike (h : StandsFor r w x v) (hv : v.Alike v') : StandsFor r w x v' := by
  intro d stack w' hl
  obtain ⟨u, n, hu, hlike⟩ := h d stack w' hl
  exact ⟨u, n, hu, hlike.trans hv⟩

theorem undefined : StandsFor r w .undefined .undefined :=
  fun _ _ w' _ => ⟨.undefined, w'.nextValue, rfl, rfl⟩

theorem null : StandsFor r w .null .null :=
  fun _ _ w' _ => ⟨.null, w'.nextValue, rfl, rfl⟩

/-- A number is kept as a small integer or as itself, and is the same bits either way. -/
theorem number (id : ValueId) (x : Double) : StandsFor r w (Val.ofNumber x) (.number id x) := by
  intro d stack w' _
  unfold Val.ofNumber
  refine ⟨.number w'.nextValue x, w'.nextValue + 1, ?_, rfl⟩
  cases hx : x.toInt32? with
  | none => rfl
  | some n =>
      have hback := Double.ofInt_toInt32? hx
      dsimp only [Crossing.toValue]
      rw [hback]
      rfl

/-- The encoding of a text is well formed, so that no code runs to make it so. -/
theorem string (id : ValueId) (s : String) :
    StandsFor r w (.string (Units.ofString s)) (.string id s) := by
  intro d stack w' _
  have htext : Crossing.text ⟨d, r, r, stack⟩ (Units.ofString s) w' = (w', .ok s) := by
    unfold Crossing.text
    rw [Units.toString?_ofString]
  refine ⟨.string w'.nextValue s, w'.nextValue + 1, ?_, rfl⟩
  dsimp only [Crossing.toValue]
  rw [htext]
  rfl

/-- Functions stay functions. -/
theorem function (id : ValueId) {o : ObjectRef} (ho : (w.heap r).isCallable (.object o) = true) :
    StandsFor r w (.object o) (.function id (.captured r o)) := by
  intro d stack w' hl
  have ho' : (w'.heap r).isCallable (.object o) = true := by
    obtain ⟨c, hc⟩ := Option.isSome_iff_exists.mp ho
    exact Option.isSome_iff_exists.mpr ⟨c, (hl.heaps r).callable? hc⟩
  refine ⟨.function w'.nextValue (.captured r o), w'.nextValue + 1, ?_, rfl⟩
  dsimp only [Crossing.toValue]
  rw [if_pos ho']
  rfl

/-- An object that is no function stays one that is none. -/
theorem object {o : ObjectRef} (hmade : o < (w.heap r).size)
    (hkind : ((w.heap r).object o).kind = .plain) : StandsFor r w (.object o) .null := by
  intro d stack w' hl
  have ho : ¬(w'.heap r).isCallable (.object o) = true := by
    simp only [Heap.isCallable, Heap.callable?, Script.Object.callable?,
      (hl.heaps r).kind_eq o hmade, hkind, Option.isSome_none, Bool.false_eq_true, not_false_iff]
  refine ⟨.null, w'.nextValue, ?_, rfl⟩
  dsimp only [Crossing.toValue]
  rw [if_neg ho]

end StandsFor

variable [LawfulMachine] {host : Host φ γ σ} {n : Nat}

/-- A callback ends with the one argument that it got, whatever else it does. -/
def Host.PassesOn (host : Host φ γ σ) (n : Nat) (f : φ) : Prop :=
  ∀ left r v w, ∃ w', (host.behave f ⟨r, [v]⟩).perform
    (services host (dispatcher host n) left) (some ⟨r, [v]⟩) {} w = (w', .returned v)

/-- A script calls a callback of its own realm on one value. -/
structure Passes (host : Host φ γ σ) (n : Nat) (r : RealmRef) (w : World φ σ) (y : Val)
    (call : Script.HostCall) : Prop where
  arguments : call.arguments = [y]
  found : w.findActive? call.key.realm = some r
  passes : ∃ f, (w.realm r).native? call.key.slot = some f ∧ host.PassesOn n f

end Machine

/-- A host whose one callback hands on its argument. -/
def relayingHost : Host Unit Unit Unit where
  behave _ i := .answer (i.argument 0) .done
  generate _ _ s := ⟨.entry "identity" (.callback ()) .empty, 0, s⟩

/-- A realm with that callback. -/
def relayingWorld : World Unit Unit :=
  (relayingHost.createRealm {} (.entry "identity" (.callback ()) .empty) (.start ())).1

end ScriptHost
