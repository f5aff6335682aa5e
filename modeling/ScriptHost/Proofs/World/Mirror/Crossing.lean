import ScriptHost.Proofs.World.Mirror

/-!
# Crossing the boundary of worlds that mirror each other

Code of a realm runs in one world and code of its counterpart in the other, from heaps that
correspond.  Scripts do not depend on the names of realms, so both ask the host for the same
things, and end the same way if the answers correspond, which is `Pairing.Answers`.  Values that
cross the boundary correspond too, whichever way they go; the errors of crossings are the same.

Nothing is asked of the worlds but that they mirror each other: what a crossing finds is found in
both or in neither.
-/

namespace ScriptHost

open Script (Heap HostCall Val)

variable {φ γ σ σ' α : Type}

/-- Two ways of a callback to end stand for each other. -/
inductive Completion.Pairs (P : Pairing φ γ σ σ') (n : Nat) : Completion φ → Completion φ → Prop
  | returned {v v' : Value φ} (hv : v.Pairs P n v') : Pairs P n (.returned v) (.returned v')
  | thrown (message : String) : Pairs P n (.thrown message) (.thrown message)

namespace Pairing

variable (P : Pairing φ γ σ σ') (asks : Prop)

/-- Code of a realm is at work in both worlds.  If host calls are to be answered the realm is
active, and what is active above it corresponds. -/
structure Ready (w : World φ σ) (w' : World φ σ') (k : RealmRef) : Prop where
  mirrors : P.Mirrors w w'
  made : k < w.realms.size
  active : asks → ∃ l m m', w.active = l ++ m ∧ w'.active = l.map (P.base + ·) ++ m' ∧
    k ∈ l ∧ ∀ r ∈ l, P.Has w.realms.size r

/-- Two dispatchers answer host calls alike that correspond. -/
def Answers (d : Dispatcher φ σ) (d' : Dispatcher φ σ') : Prop :=
  ∀ {w : World φ σ} {w' : World φ σ'} {k : RealmRef}, P.Ready asks w w' k → ∀ call : HostCall,
    P.After w w' (fun _ => Eq) (d k call w) (d' (P.base + k) (call.rename P.rename) w')

variable {P asks} {w : World φ σ} {w' : World φ σ'} {k : RealmRef} {stack : Script.Stack}

theorem Ready.after {β : Type} {Q : Nat → α → β → Prop} {a : World φ σ × α}
    {b : World φ σ' × β} (hw : P.Ready asks w w' k) (h : P.After w w' Q a b) :
    P.Ready asks a.1 b.1 k where
  mirrors := h.mirrors
  made := Nat.lt_of_lt_of_le hw.made h.grows.size_le
  active hasks := by
    obtain ⟨l, m, m', hl, hl', hk, hhas⟩ := hw.active hasks
    obtain ⟨t, ht, ht', hnew⟩ := h.active
    refine ⟨t ++ l, m, m', ?_, ?_, List.mem_append_right t hk, fun r hr => ?_⟩
    · rw [ht, hl, List.append_assoc]
    · rw [ht', hl', List.map_append, List.append_assoc]
    · rcases List.mem_append.mp hr with hr | hr
      · exact hnew r hr
      · exact (hhas r hr).mono h.grows.size_le

theorem refusing_answers : P.Answers asks refusing refusing :=
  fun hw _ => hw.mirrors.unchanged rfl

namespace Ready

variable (stack) (hw : P.Ready asks w w' k)

include hw

theorem heap : w'.heap (P.base + k) = (w.heap k).rename P.rename :=
  hw.mirrors.heap (.inr hw.made)

/-! ## Steps without host calls -/

variable [Machine] [LawfulMachine]

/-- Both engines have memory for something, or neither has. -/
theorem grants (d : Dispatcher φ σ) (d' : Dispatcher φ σ') (bytes : Nat) :
    Crossing.grants ⟨d', P.base + k, P.base + k, stack⟩ w' bytes =
      Crossing.grants ⟨d, k, k, stack⟩ w bytes := by
  unfold Crossing.grants
  dsimp only
  rw [hw.heap]
  exact (LawfulMachine.uniform P.rename stack).grants (w.heap k) bytes

theorem allocate (d : Dispatcher φ σ) (d' : Dispatcher φ σ') (bytes : Nat) (o : Script.Object) :
    P.After w w' (fun _ => Eq) (Crossing.allocate ⟨d, k, k, stack⟩ bytes o w)
      (Crossing.allocate ⟨d', P.base + k, P.base + k, stack⟩ bytes (o.rename P.rename) w') := by
  unfold Crossing.allocate
  rw [hw.grants stack d d']
  split
  · dsimp only
    rw [hw.heap, Heap.rename_allocate]
    exact hw.mirrors.setHeap k _ rfl
  · exact hw.mirrors.unchanged rfl

theorem allocatePlain (d : Dispatcher φ σ) (d' : Dispatcher φ σ') :
    P.After w w' (fun _ => Eq) (Crossing.allocatePlain ⟨d, k, k, stack⟩ w)
      (Crossing.allocatePlain ⟨d', P.base + k, P.base + k, stack⟩ w') :=
  hw.allocate stack d d' Crossing.objectBytes
    (.ofKind .plain (some Script.Place.objectPrototype))

theorem makeNative (d : Dispatcher φ σ) (d' : Dispatcher φ σ') (name : String) {f : φ}
    (hf : P.callback f) :
    P.After w w' (fun _ => Eq) (Crossing.makeNative ⟨d, k, k, stack⟩ name f w)
      (Crossing.makeNative ⟨d', P.base + k, P.base + k, stack⟩ name f w') := by
  have hkey : (w'.register (P.base + k) f).1 = (w.register k f).1.rename P.rename := by
    unfold World.register NativeKey.rename
    rw [hw.mirrors.idOf (.inr hw.made), hw.mirrors.realm (.inr hw.made)]
    rfl
  have hregister := hw.mirrors.register k hf (Q := fun _ => Eq) (x := ()) (y := ()) rfl
  have hallocate := (hw.after hregister).allocate stack d d'
    (Crossing.objectBytes + Crossing.stringBytes name)
    (Crossing.nativeObject name (w.register k f).1)
  unfold Crossing.makeNative
  dsimp only
  rw [hkey]
  exact hregister.andThen hallocate

omit [Machine] [LawfulMachine] in
theorem restore (d : Dispatcher φ σ) (d' : Dispatcher φ σ') {f f' : FunctionRef}
    (hf : f.Pairs P w.realms.size f') :
    P.After w w' (fun _ => Eq) (Crossing.restore ⟨d, k, k, stack⟩ f w)
      (Crossing.restore ⟨d', P.base + k, P.base + k, stack⟩ f' w') := by
  cases hf with
  | foreign backend => exact hw.mirrors.recorded _ _ rfl
  | @captured origin hr o =>
      simp only [Crossing.restore]
      rw [hw.mirrors.idOf hr, hw.mirrors.idOf (.inr hw.made)]
      by_cases hid : w.idOf origin = w.idOf k
      · rw [if_pos hid, if_pos (congrArg _ hid)]
        refine hw.mirrors.unchanged ?_
        by_cases hsame : origin = k
        · rw [if_pos hsame, if_pos (congrArg _ hsame)]
        · rw [if_neg hsame, if_neg fun heq => hsame (Nat.add_left_cancel heq)]
      · rw [if_neg hid, if_neg fun heq => hid (P.injective heq)]
        exact hw.mirrors.recorded _ _ rfl

end Ready

/-- A value is made in both worlds. -/
theorem Mirrors.freshValue (hm : P.Mirrors w w') {x y : Value φ}
    (hxy : x.Pairs P w.realms.size y) :
    P.After w w' (fun n => Ends (Value.Pairs P n)) (w.freshValue.2, .ok x)
      (w'.freshValue.2, .ok y) :=
  hm.kept List.suffix_rfl List.suffix_rfl (P.ids_succ hm.nextValue) hm.memory (.ok hxy)

namespace Answers

variable (stack) {d : Dispatcher φ σ} {d' : Dispatcher φ σ'} (A : P.Answers asks d d')

include A

/-! ## Scripts in a context -/

/-- Runs that correspond are driven alike, and end the same way. -/
theorem drive {x x' : Script.Run α} (hx : x.Renames P.rename x') {w : World φ σ}
    {w' : World φ σ'} (hw : P.Ready asks w w' k) :
    P.After w w' (fun _ => Eq) (drive d k x w) (drive d' (P.base + k) x' w') := by
  induction hx generalizing w w' with
  | finished h o => exact hw.mirrors.setHeap k h rfl
  | host h call _ ih =>
      have hset := hw.mirrors.setHeap k h (Q := fun _ => Eq) (x := ()) (y := ()) rfl
      have hready := hw.after hset
      have hanswer := A hready call
      simp only [ScriptHost.drive]
      generalize d k call (w.setHeap k h) = a at hanswer ⊢
      generalize d' (P.base + k) (call.rename P.rename) _ = b at hanswer ⊢
      have hnext := hready.after hanswer
      have hrest := ih (a.1.heap k) a.2 hnext
      rw [← hnext.heap, hanswer.result] at hrest
      rw [hanswer.result]
      exact (hset.andThen hanswer).andThen hrest

theorem run {x : Script.Action α} (hx : x.Uniform P.rename) (hw : P.Ready asks w w' k) :
    P.After w w' (fun _ => Eq) (Crossing.run ⟨d, k, k, stack⟩ x w)
      (Crossing.run ⟨d', P.base + k, P.base + k, stack⟩ x w') := by
  unfold Crossing.run
  dsimp only
  rw [hw.heap]
  exact A.drive (hx _) hw

variable [Machine] [LawfulMachine]

/-! ## From scripts to the host -/

theorem text (s : Units) (hw : P.Ready asks w w' k) :
    P.After w w' (fun _ => Eq) (Crossing.text ⟨d, k, k, stack⟩ s w)
      (Crossing.text ⟨d', P.base + k, P.base + k, stack⟩ s w') := by
  unfold Crossing.text
  cases s.toString? with
  | some t => exact hw.mirrors.unchanged rfl
  | none =>
      have hrun := A.run stack
        (makeWellFormed_uniform stack s) hw
      dsimp only
      generalize Crossing.run ⟨d, k, k, stack⟩ _ w = a at hrun ⊢
      generalize Crossing.run ⟨d', _, _, stack⟩ _ w' = b at hrun ⊢
      have hready := hw.after hrun
      obtain ⟨w₁, o⟩ := a
      obtain ⟨w₁', o'⟩ := b
      obtain rfl : o = o' := hrun.result
      refine hrun.andThen ?_
      cases o with
      | _ => exact hready.mirrors.unchanged rfl

theorem toValue (v : Val) (hw : P.Ready asks w w' k) :
    P.After w w' (fun n => Ends (Value.Pairs P n)) (Crossing.toValue ⟨d, k, k, stack⟩ v w)
      (Crossing.toValue ⟨d', P.base + k, P.base + k, stack⟩ v w') := by
  have hids := hw.mirrors.nextValue
  cases v with
  | int n => exact hw.mirrors.freshValue (.number hids _)
  | float x => exact hw.mirrors.freshValue (.number hids _)
  | string s =>
      have htext := A.text stack s hw
      unfold Crossing.toValue
      dsimp only
      generalize Crossing.text ⟨d, k, k, stack⟩ s w = a at htext ⊢
      generalize Crossing.text ⟨d', _, _, stack⟩ s w' = b at htext ⊢
      obtain ⟨w₁, x⟩ := a
      obtain ⟨w₁', x'⟩ := b
      obtain rfl : x = x' := htext.result
      refine htext.andThen ?_
      cases x with
      | ok t => exact htext.mirrors.freshValue (.string htext.mirrors.nextValue t)
      | error e => exact htext.mirrors.unchanged (.error e)
  | object o =>
      unfold Crossing.toValue
      dsimp only
      rw [hw.heap, Heap.isCallable_rename]
      split
      · exact hw.mirrors.freshValue (.function hids (.captured (.inr hw.made) o))
      · exact hw.mirrors.unchanged (.ok .null)
  | undefined => exact hw.mirrors.unchanged (.ok .undefined)
  | _ => exact hw.mirrors.unchanged (.ok .null)

theorem toValues (vs : List Val) {w : World φ σ} {w' : World φ σ'} (hw : P.Ready asks w w' k) :
    P.After w w' (fun n => Ends (List.Forall₂ (Value.Pairs P n)))
      (Crossing.toValues ⟨d, k, k, stack⟩ vs w)
      (Crossing.toValues ⟨d', P.base + k, P.base + k, stack⟩ vs w') := by
  induction vs generalizing w w' with
  | nil => exact hw.mirrors.unchanged (.ok .nil)
  | cons v vs ih =>
      have hvalue := A.toValue stack v hw
      simp only [Crossing.toValues]
      generalize Crossing.toValue ⟨d, k, k, stack⟩ v w = a at hvalue ⊢
      generalize Crossing.toValue ⟨d', _, _, stack⟩ v w' = b at hvalue ⊢
      have hrest := ih (hw.after hvalue)
      obtain ⟨w₁, x⟩ := a
      obtain ⟨w₁', x'⟩ := b
      cases hvalue.result with
      | error e => exact hvalue.andThen (hvalue.mirrors.unchanged (.error e))
      | ok hx =>
          refine hvalue.andThen ?_
          dsimp only at hrest hx ⊢
          generalize Crossing.toValues ⟨d, k, k, stack⟩ vs w₁ = c at hrest ⊢
          generalize Crossing.toValues ⟨d', _, _, stack⟩ vs w₁' = c' at hrest ⊢
          obtain ⟨w₂, xs⟩ := c
          obtain ⟨w₂', xs'⟩ := c'
          refine hrest.andThen ?_
          cases hrest.result with
          | error e => exact hrest.mirrors.unchanged (.error e)
          | ok hxs =>
              exact hrest.mirrors.unchanged (.ok (.cons (hx.mono hrest.grows.size_le) hxs))

theorem report (v : Val) (hw : P.Ready asks w w' k) :
    P.After w w' (fun _ => Eq) (Crossing.report ⟨d, k, k, stack⟩ v w)
      (Crossing.report ⟨d', P.base + k, P.base + k, stack⟩ v w') := by
  have hrun := A.run stack (reportOf_uniform (LawfulMachine.uniform P.rename stack) v) hw
  simp only [Crossing.report, Crossing.evaluator]
  generalize Crossing.run ⟨d, k, k, stack⟩ _ w = a at hrun ⊢
  generalize Crossing.run ⟨d', _, _, stack⟩ _ w' = b at hrun ⊢
  obtain ⟨w₁, o⟩ := a
  obtain ⟨w₁', o'⟩ := b
  obtain rfl : o = o' := hrun.result
  refine hrun.andThen ?_
  cases o <;> exact hrun.mirrors.unchanged rfl

theorem conclude (o : Script.Outcome Val) (hw : P.Ready asks w w' k) :
    P.After w w' (fun n => Ends (Value.Pairs P n)) (Crossing.conclude ⟨d, k, k, stack⟩ o w)
      (Crossing.conclude ⟨d', P.base + k, P.base + k, stack⟩ o w') := by
  cases o with
  | returned v => exact A.toValue stack v hw
  | thrown v =>
      have hreport := A.report stack v hw
      simp only [Crossing.conclude]
      generalize Crossing.report ⟨d, k, k, stack⟩ v w = a at hreport ⊢
      generalize Crossing.report ⟨d', _, _, stack⟩ v w' = b at hreport ⊢
      refine hreport.andThen ?_
      rw [hreport.result]
      exact hreport.mirrors.unchanged (.error b.2)
  | suspended => exact hw.mirrors.unchanged (.ok .undefined)

/-! ## From the host to scripts -/

theorem assign (target : ObjectRef) (name : String) (v : Val) (hw : P.Ready asks w w' k) :
    P.After w w' (fun _ => Eq) (Crossing.assign ⟨d, k, k, stack⟩ target name v w)
      (Crossing.assign ⟨d', P.base + k, P.base + k, stack⟩ target name v w') := by
  have hrun := A.run stack (Script.setProperty_uniform (LawfulMachine.uniform P.rename stack)
    (.object target) (Script.key name) v) hw
  simp only [Crossing.assign, Crossing.evaluator]
  generalize Crossing.run ⟨d, k, k, stack⟩ _ w = a at hrun ⊢
  generalize Crossing.run ⟨d', _, _, stack⟩ _ w' = b at hrun ⊢
  obtain ⟨w₁, o⟩ := a
  obtain ⟨w₁', o'⟩ := b
  obtain rfl : o = o' := hrun.result
  refine hrun.andThen ?_
  cases o <;> exact hrun.mirrors.unchanged rfl

set_option linter.unusedSectionVars false in
/-- A fresh object with the exports of a namespace, if these go in alike. -/
private theorem extract_object (i i' : ValueId) {exports exports' : Namespace φ}
    (hinstall : ∀ (r : ObjectRef) {w₁ : World φ σ} {w₁' : World φ σ'}, Grows w w₁ →
      P.Ready asks w₁ w₁' k →
        P.After w₁ w₁' (fun _ => Eq) (exports.install ⟨d, k, k, stack⟩ r w₁)
          (exports'.install ⟨d', P.base + k, P.base + k, stack⟩ r w₁'))
    (hw : P.Ready asks w w' k) :
    P.After w w' (fun _ => Eq) ((Value.object i exports).extract ⟨d, k, k, stack⟩ w)
      ((Value.object i' exports').extract ⟨d', P.base + k, P.base + k, stack⟩ w') := by
  have hplain := hw.allocatePlain stack d d'
  simp only [Value.extract]
  generalize Crossing.allocatePlain ⟨d, k, k, stack⟩ w = a at hplain ⊢
  generalize Crossing.allocatePlain ⟨d', _, _, stack⟩ w' = b at hplain ⊢
  have hready := hw.after hplain
  obtain ⟨w₁, x⟩ := a
  obtain ⟨w₁', x'⟩ := b
  obtain rfl : x = x' := hplain.result
  refine hplain.andThen ?_
  cases x with
  | error e => exact hready.mirrors.unchanged rfl
  | ok r =>
      have hin := hinstall r hplain.grows hready
      dsimp only at hin ⊢
      generalize exports.install ⟨d, k, k, stack⟩ r w₁ = c at hin ⊢
      generalize exports'.install ⟨d', _, _, stack⟩ r w₁' = c' at hin ⊢
      obtain ⟨w₂, x⟩ := c
      obtain ⟨w₂', x'⟩ := c'
      obtain rfl : x = x' := hin.result
      refine hin.andThen ?_
      cases x <;> exact hin.mirrors.unchanged rfl

mutual
theorem extract {v v' : Value φ} {w : World φ σ} {w' : World φ σ'} :
    v.Pairs P w.realms.size v' → P.Ready asks w w' k →
      P.After w w' (fun _ => Eq) (v.extract ⟨d, k, k, stack⟩ w)
        (v'.extract ⟨d', P.base + k, P.base + k, stack⟩ w')
  | .null, hw => hw.mirrors.unchanged rfl
  | .undefined, hw => hw.mirrors.unchanged rfl
  | .number _ _, hw => hw.mirrors.unchanged rfl
  | .string _ s, hw => by
      simp only [Value.extract]
      rw [hw.grants stack d d']
      split <;> exact hw.mirrors.unchanged rfl
  | .function _ hf, hw => hw.restore stack d d' hf
  | .object _ he, hw =>
      A.extract_object stack _ _ (fun r _ _ hgrows hw' => install r (he.mono hgrows.size_le) hw') hw

theorem install (target : ObjectRef) {e e' : Namespace φ} {w : World φ σ} {w' : World φ σ'} :
    e.Pairs P w.realms.size e' → P.Ready asks w w' k →
      P.After w w' (fun _ => Eq) (e.install ⟨d, k, k, stack⟩ target w)
        (e'.install ⟨d', P.base + k, P.base + k, stack⟩ target w')
  | .empty, hw => hw.mirrors.unchanged rfl
  | .entry name hitem hrest, hw => by
      have hrealised := realise name hitem hw
      simp only [Namespace.install]
      generalize Export.realise ⟨d, k, k, stack⟩ name _ w = a at hrealised ⊢
      generalize Export.realise ⟨d', _, _, stack⟩ name _ w' = b at hrealised ⊢
      have hready := hw.after hrealised
      obtain ⟨w₁, x⟩ := a
      obtain ⟨w₁', x'⟩ := b
      obtain rfl : x = x' := hrealised.result
      refine hrealised.andThen ?_
      cases x with
      | error e => exact hready.mirrors.unchanged rfl
      | ok v =>
          have hassigned := A.assign stack target name v hready
          dsimp only at hassigned ⊢
          generalize Crossing.assign ⟨d, k, k, stack⟩ target name v w₁ = c at hassigned ⊢
          generalize Crossing.assign ⟨d', _, _, stack⟩ target name v w₁' = c' at hassigned ⊢
          have hready' := hready.after hassigned
          have hlarger := Nat.le_trans hrealised.grows.size_le hassigned.grows.size_le
          obtain ⟨w₂, y⟩ := c
          obtain ⟨w₂', y'⟩ := c'
          obtain rfl : y = y' := hassigned.result
          refine hassigned.andThen ?_
          cases y with
          | error e => exact hready'.mirrors.unchanged rfl
          | ok u => exact install target (hrest.mono hlarger) hready'

theorem realise (name : String) {e e' : Export φ} {w : World φ σ} {w' : World φ σ'} :
    e.Pairs P w.realms.size e' → P.Ready asks w w' k →
      P.After w w' (fun _ => Eq) (e.realise ⟨d, k, k, stack⟩ name w)
        (e'.realise ⟨d', P.base + k, P.base + k, stack⟩ name w')
  | .value hv, hw => extract hv hw
  | .callback hf, hw => by
      have hnative := hw.makeNative stack d d' name hf
      simp only [Export.realise]
      generalize Crossing.makeNative ⟨d, k, k, stack⟩ name _ w = a at hnative ⊢
      generalize Crossing.makeNative ⟨d', _, _, stack⟩ name _ w' = b at hnative ⊢
      obtain ⟨w₁, x⟩ := a
      obtain ⟨w₁', x'⟩ := b
      obtain rfl : x = x' := hnative.result
      refine hnative.andThen ?_
      cases x <;> exact hnative.mirrors.unchanged rfl
  | .nested he, hw =>
      A.extract_object stack 0 0 (fun r _ _ hgrows hw' => install r (he.mono hgrows.size_le) hw') hw
end

theorem extractAll {n : Nat} {vs vs' : List (Value φ)}
    (hvs : List.Forall₂ (Value.Pairs P n) vs vs') {w : World φ σ} {w' : World φ σ'}
    (hn : n ≤ w.realms.size) (hw : P.Ready asks w w' k) :
    P.After w w' (fun _ => Eq) (Crossing.extractAll ⟨d, k, k, stack⟩ vs w)
      (Crossing.extractAll ⟨d', P.base + k, P.base + k, stack⟩ vs' w') := by
  induction hvs generalizing w w' with
  | nil => exact hw.mirrors.unchanged rfl
  | @cons v v' vs vs' hv _ ih =>
      have hvalue := A.extract stack (hv.mono hn) hw
      simp only [Crossing.extractAll]
      generalize v.extract ⟨d, k, k, stack⟩ w = a at hvalue ⊢
      generalize v'.extract ⟨d', _, _, stack⟩ w' = b at hvalue ⊢
      have hrest := ih (Nat.le_trans hn hvalue.grows.size_le) (hw.after hvalue)
      obtain ⟨w₁, x⟩ := a
      obtain ⟨w₁', x'⟩ := b
      obtain rfl : x = x' := hvalue.result
      refine hvalue.andThen ?_
      cases x with
      | error e => exact hvalue.mirrors.unchanged rfl
      | ok x =>
          dsimp only at hrest ⊢
          generalize Crossing.extractAll ⟨d, k, k, stack⟩ vs w₁ = c at hrest ⊢
          generalize Crossing.extractAll ⟨d', _, _, stack⟩ vs' w₁' = c' at hrest ⊢
          obtain ⟨w₂, xs⟩ := c
          obtain ⟨w₂', xs'⟩ := c'
          obtain rfl : xs = xs' := hrest.result
          refine hrest.andThen ?_
          cases xs <;> exact hrest.mirrors.unchanged rfl

/-! ## Sources, calls and replies -/

/-- Code runs to its end, and the host gets to know how it ended. -/
theorem finish {x : Script.Action Val} (hx : x.Uniform P.rename) (hw : P.Ready asks w w' k) :
    P.After w w' (fun n => Ends (Value.Pairs P n))
      (Crossing.conclude ⟨d, k, k, stack⟩ (Crossing.run ⟨d, k, k, stack⟩ x w).2
        (Crossing.run ⟨d, k, k, stack⟩ x w).1)
      (Crossing.conclude ⟨d', P.base + k, P.base + k, stack⟩
        (Crossing.run ⟨d', P.base + k, P.base + k, stack⟩ x w').2
        (Crossing.run ⟨d', P.base + k, P.base + k, stack⟩ x w').1) := by
  have hrun := A.run stack hx hw
  have hconclude := A.conclude stack (Crossing.run ⟨d, k, k, stack⟩ x w).2 (hw.after hrun)
  rw [hrun.result] at hconclude ⊢
  exact hrun.andThen hconclude

theorem runSource (source : String) (hw : P.Ready asks w w' k) :
    P.After w w' (fun n => Ends (Value.Pairs P n))
      (Crossing.runSource ⟨d, k, k, stack⟩ source w)
      (Crossing.runSource ⟨d', P.base + k, P.base + k, stack⟩ source w') := by
  unfold Crossing.runSource
  cases nulPosition? source with
  | some n => exact hw.mirrors.unchanged (.error _)
  | none => exact A.finish stack (runSource_uniform stack source) hw

theorem callContext {f f' : FunctionRef} {arguments arguments' : List (Value φ)}
    (hf : f.Pairs P w.realms.size f')
    (harguments : List.Forall₂ (Value.Pairs P w.realms.size) arguments arguments')
    (hw : P.Ready asks w w' k) :
    P.After w w' (fun n => Ends (Value.Pairs P n))
      (Crossing.callFunction ⟨d, k, k, stack⟩ f arguments w)
      (Crossing.callFunction ⟨d', P.base + k, P.base + k, stack⟩ f' arguments' w') := by
  have hrestore := hw.restore stack d d' hf
  unfold Crossing.callFunction
  generalize Crossing.restore ⟨d, k, k, stack⟩ f w = a at hrestore ⊢
  generalize Crossing.restore ⟨d', _, _, stack⟩ f' w' = b at hrestore ⊢
  have hready := hw.after hrestore
  obtain ⟨w₁, x⟩ := a
  obtain ⟨w₁', x'⟩ := b
  obtain rfl : x = x' := hrestore.result
  refine hrestore.andThen ?_
  cases x with
  | error e => exact hready.mirrors.unchanged (.error e)
  | ok f =>
      have hall := A.extractAll stack harguments hrestore.grows.size_le hready
      dsimp only at hall ⊢
      generalize Crossing.extractAll ⟨d, k, k, stack⟩ arguments w₁ = c at hall ⊢
      generalize Crossing.extractAll ⟨d', _, _, stack⟩ arguments' w₁' = c' at hall ⊢
      have hready' := hready.after hall
      obtain ⟨w₂, xs⟩ := c
      obtain ⟨w₂', xs'⟩ := c'
      obtain rfl : xs = xs' := hall.result
      refine hall.andThen ?_
      cases xs with
      | error e => exact hready'.mirrors.unchanged (.error e)
      | ok vs => exact A.finish stack ((LawfulMachine.uniform P.rename stack).call _ _ _) hready'

theorem reply {completion completion' : Completion φ}
    (hc : completion.Pairs P w.realms.size completion') (hw : P.Ready asks w w' k) :
    P.After w w' (fun _ => Eq) (Crossing.reply ⟨d, k, k, stack⟩ completion w)
      (Crossing.reply ⟨d', P.base + k, P.base + k, stack⟩ completion' w') := by
  cases hc with
  | thrown message => exact hw.mirrors.unchanged rfl
  | @returned v v' hv =>
      have hvalue := A.extract stack hv hw
      simp only [Crossing.reply]
      generalize v.extract ⟨d, k, k, stack⟩ w = a at hvalue ⊢
      generalize v'.extract ⟨d', _, _, stack⟩ w' = b at hvalue ⊢
      obtain ⟨w₁, x⟩ := a
      obtain ⟨w₁', x'⟩ := b
      obtain rfl : x = x' := hvalue.result
      refine hvalue.andThen ?_
      cases x <;> exact hvalue.mirrors.unchanged rfl

end Answers

end Pairing

end ScriptHost
