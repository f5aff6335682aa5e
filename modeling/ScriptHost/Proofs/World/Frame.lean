import Mathlib
import ScriptHost.Engine.Dispatch
import ScriptHost.Proofs.Script.Later

/-!
# Comparing two dispatchers

Everything between a host and its scripts is written for a dispatcher that answers
host calls.  This file follows two dispatchers through all of it at once: if they
answer alike wherever a property of the world holds, and keep the world within some
relation while they do so, then whole conversions, runs and calls come out alike and
within that relation too.

* **The relation.**  `Frame` lists what a relation between an earlier and a later
  world has to allow: the changes that the program makes to heaps, tables and records,
  and a stack that is pushed and popped around something that keeps to the relation.
* **The property.**  `Comparison` adds what is known of the two dispatchers, and that
  the property survives whatever the relation allows.
* **One dispatcher.**  A dispatcher compares with itself, so the same lemmas show
  what a single run can do to the world.
-/

namespace ScriptHost

variable {φ γ σ α : Type}

/-! ## What a relation has to allow -/

/-- A relation between an earlier and a later world that every step of the program
keeps to. -/
structure Frame (Rel : World φ σ → World φ σ → Prop) : Prop where
  refl (w : World φ σ) : Rel w w
  trans {w₁ w₂ w₃ : World φ σ} : Rel w₁ w₂ → Rel w₂ w₃ → Rel w₁ w₃
  setHeap (w : World φ σ) (r : RealmRef) (h : Script.Heap) : Rel w (w.setHeap r h)
  register (w : World φ σ) (r : RealmRef) (f : φ) : Rel w (w.register r f).2
  record (w : World φ σ) (e : Event) : Rel w (w.record e)
  /-- Values are made, and the host remembers something. -/
  host (w : World φ σ) (n : Nat) (s : σ) :
    Rel w { w with nextValue := w.nextValue + n, host := s }
  addRealm (w : World φ σ) (backend : String) (state : RealmState) (stack : Script.Stack) :
    Rel w (w.addRealm backend state stack).2
  /-- A realm is active while something happens. -/
  active {w w' : World φ σ} (r : RealmRef) :
    Rel (w.enter r).2 w' → Rel w (w'.leave (w.enter r).1)
  /-- A realm is live while something happens. -/
  live {w w' : World φ σ} (r : RealmRef) :
    Rel { w with live := r :: w.live } w' → Rel w { w' with live := w'.live.tail }

/-- Two relations that are kept to are kept to together. -/
theorem Frame.and {Rel Rel' : World φ σ → World φ σ → Prop} (F : Frame Rel) (F' : Frame Rel') :
    Frame fun w w' => Rel w w' ∧ Rel' w w' where
  refl w := ⟨F.refl w, F'.refl w⟩
  trans h h' := ⟨F.trans h.1 h'.1, F'.trans h.2 h'.2⟩
  setHeap w r h := ⟨F.setHeap w r h, F'.setHeap w r h⟩
  register w r f := ⟨F.register w r f, F'.register w r f⟩
  record w e := ⟨F.record w e, F'.record w e⟩
  host w n s := ⟨F.host w n s, F'.host w n s⟩
  addRealm w backend state stack :=
    ⟨F.addRealm w backend state stack, F'.addRealm w backend state stack⟩
  active r h := ⟨F.active r h.1, F'.active r h.2⟩
  live r h := ⟨F.live r h.1, F'.live r h.2⟩

/-- Two results are the same, and the world of a result keeps to a relation. -/
structure Settles (Rel : World φ σ → World φ σ → Prop) (w : World φ σ)
    (first second : World φ σ × α) : Prop where
  same : second = first
  bound : Rel w first.1

/-- Two dispatchers answer alike where a property holds, which their answers keep. -/
structure Comparison (P : World φ σ → Prop) (Rel : World φ σ → World φ σ → Prop)
    (d d' : Dispatcher φ σ) : Prop where
  frame : Frame Rel
  stable {w w' : World φ σ} : P w → Rel w w' → P w'
  answers {w : World φ σ} (context : RealmRef) (call : Script.HostCall) :
    P w → Settles Rel w (d context call w) (d' context call w)

namespace Settles

variable {Rel : World φ σ → World φ σ → Prop} {w w' : World φ σ}

theorem refl (F : Frame Rel) (x : α) : Settles Rel w (w, x) (w, x) := ⟨rfl, F.refl w⟩

theorem of_bound (a : World φ σ × α) (h : Rel w a.1) : Settles Rel w a a := ⟨rfl, h⟩

theorem after (F : Frame Rel) {a b : World φ σ × α} (h : Rel w w') (hs : Settles Rel w' a b) :
    Settles Rel w a b :=
  ⟨hs.same, F.trans h hs.bound⟩

end Settles

/-- An object that is made is behind those that were there. -/
theorem Crossing.allocate_eq [Machine] (c : Crossing φ σ) (bytes : Nat) (o : Script.Object)
    (w : World φ σ) :
    c.allocate bytes o w =
      if c.grants w bytes then
        (w.setHeap c.context ((w.heap c.context).allocate o).2, .ok (w.heap c.context).size)
      else (w, .error .scriptThrew) := rfl

theorem Crossing.allocate_ok [Machine] {c : Crossing φ σ} {bytes : Nat} {o : Script.Object}
    {w : World φ σ} {r : ObjectRef} (h : (c.allocate bytes o w).2 = .ok r) :
    c.allocate bytes o w =
      (w.setHeap c.context ((w.heap c.context).allocate o).2, .ok (w.heap c.context).size) ∧
        r = (w.heap c.context).size := by
  rw [c.allocate_eq] at h ⊢
  split at h
  · rename_i hgrants
    exact ⟨if_pos hgrants, (Except.ok.inj h).symm⟩
  · cases h

/-- The same crossing with another dispatcher. -/
def Crossing.through (c : Crossing φ σ) (d : Dispatcher φ σ) : Crossing φ σ :=
  { c with dispatch := d }

@[simp] theorem Crossing.through_context (c : Crossing φ σ) (d : Dispatcher φ σ) :
    (c.through d).context = c.context := rfl

@[simp] theorem Crossing.through_realm (c : Crossing φ σ) (d : Dispatcher φ σ) :
    (c.through d).realm = c.realm := rfl

@[simp] theorem Crossing.through_stack (c : Crossing φ σ) (d : Dispatcher φ σ) :
    (c.through d).stack = c.stack := rfl

@[simp] theorem Crossing.through_evaluator [Machine] (c : Crossing φ σ) (d : Dispatcher φ σ) :
    (c.through d).evaluator = c.evaluator := rfl

@[simp] theorem Crossing.through_grants [Machine] (c : Crossing φ σ) (d : Dispatcher φ σ)
    (w : World φ σ) (bytes : Nat) : (c.through d).grants w bytes = c.grants w bytes := rfl

namespace Comparison

variable {P : World φ σ → Prop} {Rel : World φ σ → World φ σ → Prop} {d d' : Dispatcher φ σ}

/-- A dispatcher that keeps to a relation compares with itself. -/
theorem self (F : Frame Rel)
    (h : ∀ context call (w : World φ σ), Rel w (d context call w).1) :
    Comparison (fun _ => True) Rel d d :=
  ⟨F, fun _ _ => trivial, fun context call _ => ⟨rfl, h context call _⟩⟩

/-! ## Scripts in a context -/

/-- A run comes out alike: every host call is answered alike, and the property holds again
before the run goes on. -/
theorem drive (C : Comparison P Rel d d') (context : RealmRef) (x : Script.Run α)
    {w : World φ σ} (hw : P w) :
    Settles Rel w (drive d context x w) (drive d' context x w) := by
  induction x generalizing w with
  | finished h o => exact ⟨rfl, C.frame.setHeap w context h⟩
  | host h call resume ih =>
      have hset : Rel w (w.setHeap context h) := C.frame.setHeap w context h
      have hcall := C.answers context call (C.stable hw hset)
      simp only [ScriptHost.drive]
      rw [hcall.same]
      have hrest := C.frame.trans hset hcall.bound
      exact (ih _ _ (C.stable hw hrest)).after C.frame hrest

variable {c : Crossing φ σ}

theorem run (C : Comparison P Rel c.dispatch d') (x : Script.Action α) {w : World φ σ}
    (hw : P w) : Settles Rel w (c.run x w) ((c.through d').run x w) :=
  C.drive c.context (x (w.heap c.context)) hw

variable [Machine]

/-! ## From scripts to the host -/

theorem text (C : Comparison P Rel c.dispatch d') (s : Units) {w : World φ σ} (hw : P w) :
    Settles Rel w (c.text s w) ((c.through d').text s w) := by
  unfold Crossing.text
  cases s.toString? with
  | some t => exact .refl C.frame _
  | none =>
      obtain ⟨hsame, hbound⟩ := C.run (makeWellFormed c.stack s) hw
      simp only [Crossing.through_stack, hsame]
      generalize c.run (makeWellFormed c.stack s) w = a at hbound ⊢
      obtain ⟨w', o⟩ := a
      cases o <;> exact ⟨rfl, hbound⟩

theorem toValue (C : Comparison P Rel c.dispatch d') (v : Script.Val) {w : World φ σ}
    (hw : P w) : Settles Rel w (c.toValue v w) ((c.through d').toValue v w) := by
  cases v with
  | int n => exact .of_bound (c.toValue (.int n) w) (C.frame.host w 1 w.host)
  | float x => exact .of_bound (c.toValue (.float x) w) (C.frame.host w 1 w.host)
  | string s =>
      obtain ⟨hsame, hbound⟩ := C.text s hw
      unfold Crossing.toValue
      dsimp only
      rw [hsame]
      generalize c.text s w = a at hbound ⊢
      obtain ⟨w', t | t⟩ := a
      · exact ⟨rfl, hbound⟩
      · exact ⟨rfl, C.frame.trans hbound (C.frame.host w' 1 w'.host)⟩
  | object r =>
      refine ⟨rfl, ?_⟩
      unfold Crossing.toValue
      dsimp only
      split
      · exact C.frame.host w 1 w.host
      · exact C.frame.refl w
  | _ => exact .refl C.frame _

/-- A list of script values comes out alike; the property holds again after each of them. -/
theorem toValues (C : Comparison P Rel c.dispatch d') (vs : List Script.Val)
    {w : World φ σ} (hw : P w) :
    Settles Rel w (c.toValues vs w) ((c.through d').toValues vs w) := by
  induction vs generalizing w with
  | nil => exact .refl C.frame _
  | cons v vs ih =>
      obtain ⟨hsame, hbound⟩ := C.toValue v hw
      simp only [Crossing.toValues, hsame]
      generalize c.toValue v w = a at hbound ⊢
      obtain ⟨w', e | x⟩ := a
      · exact ⟨rfl, hbound⟩
      · obtain ⟨hsame', hbound'⟩ := ih (C.stable hw hbound)
        simp only [hsame']
        generalize c.toValues vs w' = b at hbound' ⊢
        obtain ⟨w'', e | xs⟩ := b
        · exact ⟨rfl, C.frame.trans hbound hbound'⟩
        · exact ⟨rfl, C.frame.trans hbound hbound'⟩

theorem report (C : Comparison P Rel c.dispatch d') (v : Script.Val) {w : World φ σ}
    (hw : P w) : Settles Rel w (c.report v w) ((c.through d').report v w) := by
  obtain ⟨hsame, hbound⟩ := C.run (reportOf c.evaluator v) hw
  simp only [Crossing.report, Crossing.through_evaluator, hsame]
  generalize c.run (reportOf c.evaluator v) w = a at hbound ⊢
  obtain ⟨w', o⟩ := a
  cases o <;> exact ⟨rfl, hbound⟩

theorem conclude (C : Comparison P Rel c.dispatch d') (o : Script.Outcome Script.Val)
    {w : World φ σ} (hw : P w) :
    Settles Rel w (c.conclude o w) ((c.through d').conclude o w) := by
  cases o with
  | returned v => exact C.toValue v hw
  | thrown v =>
      obtain ⟨hsame, hbound⟩ := C.report v hw
      simp only [Crossing.conclude, hsame]
      exact .of_bound _ hbound
  | suspended => exact .refl C.frame _

/-! ## From the host to scripts -/

theorem assign (C : Comparison P Rel c.dispatch d') (target : ObjectRef) (name : String)
    (v : Script.Val) {w : World φ σ} (hw : P w) :
    Settles Rel w (c.assign target name v w) ((c.through d').assign target name v w) := by
  obtain ⟨hsame, hbound⟩ :=
    C.run (Script.setProperty c.evaluator (.object target) (Script.key name) v) hw
  simp only [Crossing.assign, Crossing.through_evaluator, hsame]
  generalize c.run (Script.setProperty c.evaluator (.object target) (Script.key name) v) w = a
    at hbound ⊢
  obtain ⟨w', o⟩ := a
  cases o <;> exact ⟨rfl, hbound⟩

theorem allocate (C : Comparison P Rel c.dispatch d') (bytes : Nat) (o : Script.Object)
    (w : World φ σ) :
    Settles Rel w (c.allocate bytes o w) ((c.through d').allocate bytes o w) := by
  refine ⟨rfl, ?_⟩
  rw [c.allocate_eq]
  split
  · exact C.frame.setHeap w c.context _
  · exact C.frame.refl w

theorem makeNative (C : Comparison P Rel c.dispatch d') (name : String) (f : φ)
    (w : World φ σ) :
    Settles Rel w (c.makeNative name f w) ((c.through d').makeNative name f w) :=
  (C.allocate _ _ _).after C.frame (C.frame.register w c.realm f)

omit [Machine] in
theorem restore (C : Comparison P Rel c.dispatch d') (f : FunctionRef) (w : World φ σ) :
    Settles Rel w (c.restore f w) ((c.through d').restore f w) := by
  refine ⟨rfl, ?_⟩
  cases f with
  | foreign backend => exact C.frame.record w _
  | captured origin object =>
      simp only [Crossing.restore]
      split
      · exact C.frame.refl w
      · exact C.frame.record w _

/-- A fresh object gets the exports of a namespace. -/
private theorem extract_object (C : Comparison P Rel c.dispatch d') (id : ValueId)
    (exports : Namespace φ)
    (hinstall : ∀ (target : ObjectRef) {w : World φ σ}, P w →
      Settles Rel w (exports.install c target w) (exports.install (c.through d') target w))
    {w : World φ σ} (hw : P w) :
    Settles Rel w ((Value.object id exports).extract c w)
      ((Value.object id exports).extract (c.through d') w) := by
  obtain ⟨hsame, hbound⟩ : Settles Rel w (c.allocatePlain w) ((c.through d').allocatePlain w) :=
    C.allocate _ _ w
  simp only [Value.extract, hsame]
  generalize c.allocatePlain w = a at hbound ⊢
  obtain ⟨w', e | r⟩ := a
  · exact ⟨rfl, hbound⟩
  · obtain ⟨hsame', hbound'⟩ := hinstall r (C.stable hw hbound)
    simp only [hsame']
    generalize exports.install c r w' = b at hbound' ⊢
    obtain ⟨w'', e | x⟩ := b
    · exact ⟨rfl, C.frame.trans hbound hbound'⟩
    · exact ⟨rfl, C.frame.trans hbound hbound'⟩

mutual
theorem extract (C : Comparison P Rel c.dispatch d') (v : Value φ) {w : World φ σ}
    (hw : P w) : Settles Rel w (v.extract c w) (v.extract (c.through d') w) := by
  cases v with
  | null => exact .refl C.frame _
  | undefined => exact .refl C.frame _
  | number id x => exact .refl C.frame _
  | string id s =>
      simp only [Value.extract, Crossing.through_grants]
      refine ⟨rfl, ?_⟩
      split <;> exact C.frame.refl w
  | function id f => exact C.restore f w
  | object id exports =>
      exact C.extract_object id exports (fun target _ hw => C.install exports target hw) hw

theorem install (C : Comparison P Rel c.dispatch d') (exports : Namespace φ)
    (target : ObjectRef) {w : World φ σ} (hw : P w) :
    Settles Rel w (exports.install c target w) (exports.install (c.through d') target w) := by
  cases exports with
  | empty => exact .refl C.frame _
  | entry name item rest =>
      obtain ⟨hsame, hbound⟩ := C.realise item name hw
      simp only [Namespace.install, hsame]
      generalize item.realise c name w = a at hbound ⊢
      obtain ⟨w', e | v⟩ := a
      · exact ⟨rfl, hbound⟩
      · have hw' := C.stable hw hbound
        obtain ⟨hsame', hbound'⟩ := C.assign target name v hw'
        simp only [hsame']
        generalize c.assign target name v w' = b at hbound' ⊢
        obtain ⟨w'', e | u⟩ := b
        · exact ⟨rfl, C.frame.trans hbound hbound'⟩
        · exact (C.install rest target (C.stable hw' hbound')).after C.frame
            (C.frame.trans hbound hbound')

theorem realise (C : Comparison P Rel c.dispatch d') (item : Export φ) (name : String)
    {w : World φ σ} (hw : P w) :
    Settles Rel w (item.realise c name w) (item.realise (c.through d') name w) := by
  cases item with
  | value v => exact C.extract v hw
  | callback f =>
      obtain ⟨hsame, hbound⟩ := C.makeNative name f w
      simp only [Export.realise, hsame]
      generalize c.makeNative name f w = a at hbound ⊢
      obtain ⟨w', e | r⟩ := a
      · exact ⟨rfl, hbound⟩
      · exact ⟨rfl, hbound⟩
  | nested exports =>
      exact C.extract_object 0 exports (fun target _ hw => C.install exports target hw) hw
end

/-- A list of host values goes in alike; the property holds again after each of them. -/
theorem extractAll (C : Comparison P Rel c.dispatch d') (vs : List (Value φ))
    {w : World φ σ} (hw : P w) :
    Settles Rel w (c.extractAll vs w) ((c.through d').extractAll vs w) := by
  induction vs generalizing w with
  | nil => exact .refl C.frame _
  | cons v vs ih =>
      obtain ⟨hsame, hbound⟩ := C.extract v hw
      simp only [Crossing.extractAll, hsame]
      generalize v.extract c w = a at hbound ⊢
      obtain ⟨w', e | x⟩ := a
      · exact ⟨rfl, hbound⟩
      · obtain ⟨hsame', hbound'⟩ := ih (C.stable hw hbound)
        simp only [hsame']
        generalize c.extractAll vs w' = b at hbound' ⊢
        obtain ⟨w'', e | xs⟩ := b
        · exact ⟨rfl, C.frame.trans hbound hbound'⟩
        · exact ⟨rfl, C.frame.trans hbound hbound'⟩

end Comparison

end ScriptHost
