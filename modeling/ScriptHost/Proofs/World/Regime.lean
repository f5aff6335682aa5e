import ScriptHost.Proofs.World.Sound

/-!
# Values cross soundly

The comparison of `Frame` asks nothing of the world; what is shown here does.  Two
dispatchers are followed once more, through everything that crosses the boundary of a
realm, and now the world is sound: then it stays so, its heaps only get later, references
that come out can be held, and functions that are held go back in.

All of this is said of runs that stay within a bound, like that of fewer than `2 ^ 32`
realms.  The bound can only be broken once, and worlds do not shrink, so it is enough to
ask for it at the end: `Regime.Sane` is an implication from the bound on the last world.
What has to be known beforehand without the bound is collected in the `Regime`.
-/

namespace ScriptHost

open Script (Heap Post RefRule Val)

variable {φ γ σ α β : Type}

/-! ## Regimes -/

/-- What a run is asked for. -/
structure Regime (φ σ : Type) where
  /-- How far the world may grow. -/
  Within : World φ σ → Prop
  few {w : World φ σ} : Within w → w.realms.size < 2 ^ 32
  back {w w' : World φ σ} : Grows w w' → Within w' → Within w
  /-- What every step keeps to, within the bound or not. -/
  Rel : World φ σ → World φ σ → Prop
  frame : Frame Rel
  grows {w w' : World φ σ} : Rel w w' → Grows w w'
  /-- What holds while code of a realm is at work. -/
  At : RealmRef → World φ σ → Prop
  stays {r : RealmRef} {w w' : World φ σ} : At r w → Rel w w' → At r w'
  enters (r : RealmRef) (w : World φ σ) (live : List RealmRef) :
    At r { (w.enter r).2 with live := live }

variable [Machine]

/-- Two results are the same, the world is later and sound, and something holds of the
result. -/
structure SaneResult (R : RefRule) (know : Knowledge φ γ σ) (Q : World φ σ → α → Prop)
    (w : World φ σ) (first second : World φ σ × α) : Prop where
  same : second = first
  later : w.Later first.1
  sound : first.1.Sound R know
  result : Q first.1 first.2

/-- Two results are sane if they stay within the bound. -/
def Regime.Sane (G : Regime φ σ) (R : RefRule) (know : Knowledge φ γ σ)
    (Q : World φ σ → α → Prop) (w : World φ σ) (first second : World φ σ × α) : Prop :=
  G.Within first.1 → SaneResult R know Q w first second

/-- Code of a realm can be at work. -/
structure Regime.Ready (G : Regime φ σ) (R : RefRule) (know : Knowledge φ γ σ) (r : RealmRef)
    (w : World φ σ) : Prop where
  at_work : G.At r w
  made : r < w.realms.size
  sound : w.Sound R know

/-- Two dispatchers answer sane host calls alike and sanely. -/
structure Regime.Answers (G : Regime φ σ) (R : RefRule) (know : Knowledge φ γ σ)
    (d d' : Dispatcher φ σ) : Prop where
  bound (context : RealmRef) (call : Script.HostCall) (w : World φ σ) :
    G.Rel w (d context call w).1
  sane {r : RealmRef} {w : World φ σ} (call : Script.HostCall) : G.Ready R know r w →
    call.Sound R (w.heap r) →
      G.Sane R know (fun w' reply => reply.Sound R (w'.heap r).size) w (d r call w) (d' r call w)

variable {G : Regime φ σ} {R : RefRule} {know : Knowledge φ γ σ} {w w' : World φ σ}
variable {r : RealmRef} {stack : Script.Stack}

theorem SaneResult.after {Q : World φ σ → α → Prop} {a b : World φ σ × α} (h : w.Later w')
    (hs : SaneResult R know Q w' a b) : SaneResult R know Q w a b :=
  ⟨hs.same, h.trans hs.later, hs.sound, hs.result⟩

/-- Nothing but the records and what the host remembers changes. -/
theorem SaneResult.still {Q : World φ σ → α → Prop} {x : α} (hw : w.Sound R know)
    (hrealms : w'.realms = w.realms) (hnext : w'.nextRealm = w.nextRealm)
    (hlog : w.log <:+ w'.log) (hlive : w'.live = w.live)
    (hhost : know.host w'.host ≤ w.held R) (hQ : Q w' x) :
    SaneResult R know Q w (w', x) (w', x) :=
  ⟨rfl, .of_realms_eq hrealms hnext hlog, hw.of_realms_eq hrealms hnext hlog hlive hhost, hQ⟩

theorem Regime.Ready.after {Q : World φ σ → α → Prop} {a b : World φ σ × α}
    (hw : G.Ready R know r w) (hs : SaneResult R know Q w a b) (h : G.Rel w a.1) :
    G.Ready R know r a.1 :=
  ⟨G.stays hw.at_work h, Nat.lt_of_lt_of_le hw.made hs.later.size_le, hs.sound⟩

namespace Regime.Sane

theorem unchanged {Q : World φ σ → α → Prop} {x : α} (hw : w.Sound R know) (hQ : Q w x) :
    G.Sane R know Q w (w, x) (w, x) :=
  fun _ => ⟨rfl, .refl w, hw, hQ⟩

/-- A value is made. -/
theorem made {Q : World φ σ → α → Prop} {x : α} (hw : w.Sound R know) (n : ValueId)
    (hQ : Q { w with nextValue := n } x) :
    G.Sane R know Q w ({ w with nextValue := n }, x) ({ w with nextValue := n }, x) :=
  fun _ => .still hw rfl rfl List.suffix_rfl rfl hw.host hQ

theorem recorded {Q : World φ σ → α → Prop} {x : α} (hw : w.Sound R know) (e : Event)
    (hQ : Q (w.record e) x) : G.Sane R know Q w (w.record e, x) (w.record e, x) :=
  fun _ => .still hw rfl rfl (List.suffix_cons e w.log) rfl hw.host hQ

/-- What goes on from a sane result is sane, if it grows the world to within the bound. -/
theorem andThen {Q : World φ σ → α → Prop} {Q' : World φ σ → β → Prop} {a b : World φ σ × α}
    {x y : World φ σ × β} (hfirst : G.Sane R know Q w a b) (hgrows : Grows a.1 x.1)
    (hrest : SaneResult R know Q w a b → G.Sane R know Q' a.1 x y) :
    G.Sane R know Q' w x y := by
  intro hwithin
  have hsane := hfirst (G.back hgrows hwithin)
  exact (hrest hsane hwithin).after hsane.later

/-- What is read off sane results without touching the world is sane. -/
theorem read {Q : World φ σ → α → Prop} {a b : World φ σ × α} {x y : World φ σ × β}
    (h : G.Sane R know Q w a b) (hworld : x.1 = a.1) (hsame : b = a → y = x) :
    G.Sane R know (fun _ _ => True) w x y := by
  intro hwithin
  rw [hworld] at hwithin
  have hsane := h hwithin
  exact ⟨hsame hsane.same, hworld ▸ hsane.later, hworld ▸ hsane.sound, trivial⟩

end Regime.Sane

/-- Calls a script value of a context on host values. -/
def Crossing.callValue (c : Crossing φ σ) (f : Val) (arguments : List (Value φ))
    (w : World φ σ) : World φ σ × Except Failure (Value φ) :=
  match c.extractAll arguments w with
  | (w, .error e) => (w, .error e)
  | (w, .ok vs) =>
    let (w, o) := c.run (c.evaluator.call f (.object Script.Place.global) vs) w
    c.conclude o w

theorem Crossing.callFunction_eq (c : Crossing φ σ) (f : FunctionRef)
    (arguments : List (Value φ)) (w : World φ σ) :
    c.callFunction f arguments w =
      match c.restore f w with
      | (w, .error e) => (w, .error e)
      | (w, .ok f) => c.callValue f arguments w := rfl

/-! ## Steps without host calls -/

/-- A value that went in can be referred to. -/
def Placed (R : RefRule) (r : RealmRef) (w : World φ σ) (x : Except Failure Val) : Prop :=
  ∀ v, x = .ok v → v.Sound R (w.heap r).size

/-- An object that was made can be referred to. -/
def PlacedObject (R : RefRule) (r : RealmRef) (w : World φ σ)
    (x : Except Failure ObjectRef) : Prop :=
  ∀ o, x = .ok o → R.Allows (w.heap r).size o

theorem allocate_allowed {d : Dispatcher φ σ} (bytes : Nat) (o : Script.Object)
    (hr : r < w.realms.size) :
    PlacedObject R r (Crossing.allocate ⟨d, r, r, stack⟩ bytes o w).1
      (Crossing.allocate ⟨d, r, r, stack⟩ bytes o w).2 := by
  intro x hx
  obtain ⟨hheap, rfl⟩ := heap_allocate hr hx
  rw [hheap]
  exact R.existing ((w.heap r).lt_size_allocate o)

namespace Regime.Ready

variable (stack) (d d' : Dispatcher φ σ) (hw : G.Ready R know r w)

include hw

theorem allocatePlain :
    G.Sane R know (PlacedObject R r) w
      (Crossing.allocatePlain ⟨d, r, r, stack⟩ w) (Crossing.allocatePlain ⟨d', r, r, stack⟩ w) := by
  intro _
  have hs := hw.sound.heaps r
  have hplain : (Script.Object.ofKind .plain (some Script.Place.objectPrototype)).Sound R
      ((w.heap r).size + 1) := by
    refine Script.Object.sound_make trivial (fun p hp => ?_) fun e he => absurd he List.not_mem_nil
    cases hp
    exact R.mono (Nat.le_succ _) (hs.place (by decide))
  have hran := Heap.Ran.allocate (w.heap r) (.ofKind .plain (some Script.Place.objectPrototype))
    fun k hk => by cases hk
  refine ⟨rfl, allocate_later _ _ hw.made, ?_, allocate_allowed _ _ hw.made⟩
  unfold Crossing.allocatePlain
  rcases allocate_world d r stack Crossing.objectBytes
    (.ofKind .plain (some Script.Place.objectPrototype)) w with h | h
  · rw [h]
    exact hw.sound
  · rw [h]
    exact hw.sound.setHeap hw.made hran (Heap.Sound.allocate hs hplain)

theorem makeNative (name : String) {f : φ} (hf : know.callback f ≤ w.held R) :
    G.Sane R know (PlacedObject R r) w
      (Crossing.makeNative ⟨d, r, r, stack⟩ name f w)
      (Crossing.makeNative ⟨d', r, r, stack⟩ name f w) := by
  intro _
  have hr : r < (w.register r f).2.realms.size := by
    rw [w.size_register]
    exact hw.made
  exact ⟨rfl, makeNative_later name f hw.made, hw.sound.makeNative hw.made name hf,
    allocate_allowed _ _ hr⟩

/-- A function goes back into the realm that it is from. -/
theorem restore {f : FunctionRef} (hf : f.Leads ≤ w.held R) :
    G.Sane R know (Placed R r) w (Crossing.restore ⟨d, r, r, stack⟩ f w)
      (Crossing.restore ⟨d', r, r, stack⟩ f w) := by
  have hundefined (w' : World φ σ) : Placed R r w' (.ok .undefined) :=
    fun v hv => by cases hv; trivial
  cases f with
  | foreign backend => exact .recorded hw.sound _ (hundefined _)
  | captured origin o =>
      intro hwithin
      simp only [Crossing.restore] at hwithin ⊢
      split at hwithin
      · rename_i hid
        obtain rfl := hw.sound.numbered.eq_of_idOf (G.few hwithin) hw.made hid
        simp only [if_true]
        refine Sane.unchanged hw.sound (fun v hv => ?_) hwithin
        cases hv
        exact hf origin o ⟨rfl, rfl⟩
      · rename_i hid
        simp only [if_neg hid]
        exact Sane.recorded hw.sound _ (hundefined _) hwithin

end Regime.Ready

namespace Regime.Answers

variable (stack) {d d' : Dispatcher φ σ} (A : G.Answers R know d d')

include A

theorem kept : Comparison (fun _ => True) G.Rel d d := .self G.frame A.bound

theorem grow (context : RealmRef) (call : Script.HostCall) (w : World φ σ) :
    Grows w (d context call w).1 := G.grows (A.bound context call w)

theorem grown : Comparison (fun _ => True) Grows d d := .self Grows.frame A.grow

/-! ## Scripts in a context -/

/-- A run that conducts itself comes out sanely: a host call asks for a function of the heap,
and the run goes on with the heap that it gets back. -/
theorem drive {P : Post α} (x : Script.Run α) {w : World φ σ} (hw : G.Ready R know r w)
    (hx : x.Conducts R P (w.heap r)) :
    G.Sane R know (fun w' o => (P.outcome R).Holds (w'.heap r).size o) w (drive d r x w)
      (drive d' r x w) := by
  induction x generalizing w with
  | finished h o =>
      intro _
      obtain ⟨hran, hs, ho⟩ := hx
      refine ⟨rfl, .setHeap hw.made hran.toLater, hw.sound.setHeap hw.made hran hs, ?_⟩
      change (P.outcome R).Holds ((w.setHeap r h).heap r).size o
      rwa [w.heap_setHeap_self hw.made]
  | host h call resume ih =>
      obtain ⟨hran, hs, hcall, hresume⟩ := hx
      have hheap := w.heap_setHeap_self hw.made h
      have hset : w.Later (w.setHeap r h) := .setHeap hw.made hran.toLater
      have hready : G.Ready R know r (w.setHeap r h) :=
        ⟨G.stays hw.at_work (G.frame.setHeap w r h),
          Nat.lt_of_lt_of_le hw.made hset.size_le, hw.sound.setHeap hw.made hran hs⟩
      have hanswer := A.sane call hready (by rwa [hheap])
      have hbound := A.bound r call (w.setHeap r h)
      intro hwithin
      simp only [ScriptHost.drive] at hwithin ⊢
      generalize d r call (w.setHeap r h) = a at hanswer hbound hwithin ⊢
      generalize d' r call (w.setHeap r h) = b at hanswer ⊢
      have hrest := (A.grown.drive r (resume (a.1.heap r) a.2) (w := a.1) ⟨⟩).bound
      have hfirst := hanswer (G.back hrest hwithin)
      obtain rfl := hfirst.same
      have hnext := hresume _ _ (hheap ▸ hfirst.later.heaps r) (hfirst.sound.heaps r) hfirst.result
      exact (ih _ _ (hready.after hfirst hbound) hnext hwithin).after (hset.trans hfirst.later)

/-- The code of the program conducts itself in every heap. -/
theorem run {P : Post α} {x : Script.Action α} (hw : G.Ready R know r w)
    (hx : x.Conducts R (w.heap r) P) :
    G.Sane R know (fun w' o => (P.outcome R).Holds (w'.heap r).size o) w
      (Crossing.run ⟨d, r, r, stack⟩ x w) (Crossing.run ⟨d', r, r, stack⟩ x w) :=
  A.drive _ hw (hx _ (.refl _) (hw.sound.heaps r))

theorem finish_grows (x : Script.Action Val) (w : World φ σ) :
    Grows w (Crossing.conclude ⟨d, r, r, stack⟩ (Crossing.run ⟨d, r, r, stack⟩ x w).2
      (Crossing.run ⟨d, r, r, stack⟩ x w).1).1 :=
  (A.grown.run (c := ⟨d, r, r, stack⟩) x (w := w) ⟨⟩).bound.trans
    (A.grown.conclude (c := ⟨d, r, r, stack⟩) _ ⟨⟩).bound

theorem callValue_grows (x : Val) (arguments : List (Value φ)) (w : World φ σ) :
    Grows w (Crossing.callValue ⟨d, r, r, stack⟩ x arguments w).1 := by
  have hgrows := (A.grown.extractAll (c := ⟨d, r, r, stack⟩) arguments (w := w) ⟨⟩).bound
  unfold Crossing.callValue
  generalize Crossing.extractAll ⟨d, r, r, stack⟩ arguments w = a at hgrows ⊢
  obtain ⟨w', e | vs⟩ := a
  · exact hgrows
  · exact hgrows.trans (A.finish_grows stack _ w')

section

variable [LawfulMachine]

/-! ## From scripts to the host -/

theorem text (s : Units) (hw : G.Ready R know r w) :
    G.Sane R know (fun _ _ => True) w (Crossing.text ⟨d, r, r, stack⟩ s w)
      (Crossing.text ⟨d', r, r, stack⟩ s w) := by
  unfold Crossing.text
  cases s.toString? with
  | some t => exact .unchanged hw.sound trivial
  | none =>
      have hrun := A.run stack hw (makeWellFormed_conducts stack s)
      dsimp only
      generalize Crossing.run ⟨d, r, r, stack⟩ _ w = a at hrun ⊢
      generalize Crossing.run ⟨d', r, r, stack⟩ _ w = b at hrun ⊢
      refine hrun.read ?_ fun hsame => by rw [hsame]
      obtain ⟨w', o⟩ := a
      cases o <;> rfl

theorem toValue {v : Val} (hv : v.Sound R (w.heap r).size) (hw : G.Ready R know r w) :
    G.Sane R know (fun w' x => Known know (w'.held R) x) w
      (Crossing.toValue ⟨d, r, r, stack⟩ v w) (Crossing.toValue ⟨d', r, r, stack⟩ v w) := by
  have hnone {w' : World φ σ} {x : Value φ} (hx : x.Leads know.callback = fun _ _ => False) :
      Known know (w'.held R) (.ok x) := by
    intro y hy s o ho
    cases hy
    rw [hx] at ho
    exact ho.elim
  cases v with
  | int n => exact .made hw.sound (w.nextValue + 1) (hnone rfl)
  | float x => exact .made hw.sound (w.nextValue + 1) (hnone rfl)
  | string s =>
      have htext := A.text stack s hw
      unfold Crossing.toValue
      dsimp only
      generalize Crossing.text ⟨d, r, r, stack⟩ s w = a at htext ⊢
      generalize Crossing.text ⟨d', r, r, stack⟩ s w = b at htext ⊢
      refine htext.andThen ?_ fun hsane => ?_
      · obtain ⟨w', e | t⟩ := a
        · exact .refl w'
        · exact Grows.frame.host w' 1 w'.host
      · obtain rfl := hsane.same
        obtain ⟨w', e | t⟩ := b
        · exact .unchanged hsane.sound fun y hy => by cases hy
        · exact .made hsane.sound (w'.nextValue + 1) (hnone rfl)
  | object o =>
      unfold Crossing.toValue
      dsimp only
      split
      · refine .made hw.sound (w.nextValue + 1) fun y hy s p hp => ?_
        cases hy
        obtain ⟨rfl, rfl⟩ := hp
        exact hv
      · exact .unchanged hw.sound (hnone rfl)
  | _ => exact .unchanged hw.sound (hnone rfl)

/-- A list of script values comes out sanely; later values find a later world. -/
theorem toValues {vs : List Val} (hvs : ∀ v ∈ vs, v.Sound R (w.heap r).size)
    (hw : G.Ready R know r w) :
    G.Sane R know
      (fun w' x => ∀ vs, x = .ok vs → ∀ v ∈ vs, v.Leads know.callback ≤ w'.held R) w
      (Crossing.toValues ⟨d, r, r, stack⟩ vs w) (Crossing.toValues ⟨d', r, r, stack⟩ vs w) := by
  induction vs generalizing w with
  | nil =>
      refine .unchanged hw.sound fun vs hvs v hv => ?_
      cases hvs
      exact absurd hv List.not_mem_nil
  | cons v vs ih =>
      have hvalue := A.toValue stack (hvs v List.mem_cons_self) hw
      have hbound := (A.kept.toValue (c := ⟨d, r, r, stack⟩) v (w := w) ⟨⟩).bound
      simp only [Crossing.toValues]
      generalize Crossing.toValue ⟨d, r, r, stack⟩ v w = a at hvalue hbound ⊢
      generalize Crossing.toValue ⟨d', r, r, stack⟩ v w = b at hvalue ⊢
      have hgrows := (A.grown.toValues (c := ⟨d, r, r, stack⟩) vs (w := a.1) ⟨⟩).bound
      refine hvalue.andThen ?_ fun hsane => ?_
      · obtain ⟨w', e | x⟩ := a
        · exact .refl w'
        · dsimp only at hgrows ⊢
          generalize Crossing.toValues ⟨d, r, r, stack⟩ vs w' = c at hgrows ⊢
          obtain ⟨w'', e | xs⟩ := c <;> exact hgrows
      · have hrest := ih (fun v' hv' => (hvs v' (List.mem_cons_of_mem v hv')).mono
          (hsane.later.heaps r).size_le) (hw.after hsane hbound)
        obtain rfl := hsane.same
        obtain ⟨w', e | x⟩ := b
        · exact .unchanged hsane.sound fun vs hvs => by cases hvs
        · dsimp only at hrest ⊢
          generalize Crossing.toValues ⟨d, r, r, stack⟩ vs w' = c at hrest ⊢
          generalize Crossing.toValues ⟨d', r, r, stack⟩ vs w' = c' at hrest ⊢
          refine hrest.andThen ?_ fun hsane' => ?_
          · obtain ⟨w'', e | xs⟩ := c <;> exact .refl w''
          · obtain rfl := hsane'.same
            obtain ⟨w'', e | xs⟩ := c'
            · exact .unchanged hsane'.sound fun vs hvs => by cases hvs
            · refine .unchanged hsane'.sound fun vs hvs v' hv' => ?_
              cases hvs
              rcases List.mem_cons.mp hv' with rfl | hv'
              · exact (hsane.result _ rfl).trans hsane'.later.held_le
              · exact hsane'.result _ rfl v' hv'

theorem report {v : Val} (hv : v.Sound R (w.heap r).size) (hw : G.Ready R know r w) :
    G.Sane R know (fun _ _ => True) w (Crossing.report ⟨d, r, r, stack⟩ v w)
      (Crossing.report ⟨d', r, r, stack⟩ v w) := by
  have hrun := A.run stack hw
    (reportOf_conducts (LawfulMachine.conducts R stack) hv)
  simp only [Crossing.report, Crossing.evaluator]
  generalize Crossing.run ⟨d, r, r, stack⟩ _ w = a at hrun ⊢
  generalize Crossing.run ⟨d', r, r, stack⟩ _ w = b at hrun ⊢
  refine hrun.read ?_ fun hsame => by rw [hsame]
  obtain ⟨w', o⟩ := a
  cases o <;> rfl

theorem conclude {o : Script.Outcome Val}
    (ho : (Post.outcome R (.val R)).Holds (w.heap r).size o) (hw : G.Ready R know r w) :
    G.Sane R know (fun w' x => Known know (w'.held R) x) w
      (Crossing.conclude ⟨d, r, r, stack⟩ o w) (Crossing.conclude ⟨d', r, r, stack⟩ o w) := by
  cases o with
  | returned v => exact A.toValue stack ho hw
  | thrown v =>
      have hreport := A.report stack ho hw
      simp only [Crossing.conclude]
      generalize Crossing.report ⟨d, r, r, stack⟩ v w = a at hreport ⊢
      generalize Crossing.report ⟨d', r, r, stack⟩ v w = b at hreport ⊢
      refine hreport.andThen (.refl a.1) fun hsane => ?_
      obtain rfl := hsane.same
      exact .unchanged hsane.sound fun x hx => by cases hx
  | suspended =>
      refine .unchanged hw.sound fun x hx s o ho => ?_
      cases hx
      exact ho.elim

/-! ## From the host to scripts -/

theorem assign {target : ObjectRef} (name : String) {v : Val}
    (htarget : R.Allows (w.heap r).size target) (hv : v.Sound R (w.heap r).size)
    (hw : G.Ready R know r w) :
    G.Sane R know (fun _ _ => True) w (Crossing.assign ⟨d, r, r, stack⟩ target name v w)
      (Crossing.assign ⟨d', r, r, stack⟩ target name v w) := by
  have hobject : (Val.object target).Sound R (w.heap r).size := htarget
  have hrun := A.run stack hw (Script.setProperty_conducts
    (LawfulMachine.conducts R stack) (Script.key name) hobject hv)
  simp only [Crossing.assign, Crossing.evaluator]
  generalize Crossing.run ⟨d, r, r, stack⟩ _ w = a at hrun ⊢
  generalize Crossing.run ⟨d', r, r, stack⟩ _ w = b at hrun ⊢
  refine hrun.read ?_ fun hsame => by rw [hsame]
  obtain ⟨w', o⟩ := a
  cases o <;> rfl

end

/-- A fresh object gets the exports of a namespace. -/
private theorem extract_object (id : ValueId) {exports : Namespace φ}
    (hinstall : ∀ {target : ObjectRef} {w' : World φ σ}, w.Later w' →
      R.Allows (w'.heap r).size target → G.Ready R know r w' →
        G.Sane R know (fun _ _ => True) w' (exports.install ⟨d, r, r, stack⟩ target w')
          (exports.install ⟨d', r, r, stack⟩ target w'))
    (hw : G.Ready R know r w) :
    G.Sane R know (Placed R r) w ((Value.object id exports).extract ⟨d, r, r, stack⟩ w)
      ((Value.object id exports).extract ⟨d', r, r, stack⟩ w) := by
  have hplain := hw.allocatePlain stack d d'
  have hbound : G.Rel w (Crossing.allocatePlain ⟨d, r, r, stack⟩ w).1 :=
    (A.kept.allocate (c := ⟨d, r, r, stack⟩) Crossing.objectBytes
      (.ofKind .plain (some Script.Place.objectPrototype)) w).bound
  simp only [Value.extract]
  generalize Crossing.allocatePlain ⟨d, r, r, stack⟩ w = a at hplain hbound ⊢
  generalize Crossing.allocatePlain ⟨d', r, r, stack⟩ w = b at hplain ⊢
  refine hplain.andThen ?_ fun hsane => ?_
  · obtain ⟨w', e | target⟩ := a
    · exact .refl w'
    · have hgrows :=
        (A.grown.install (c := ⟨d, r, r, stack⟩) exports target (w := w') ⟨⟩).bound
      dsimp only at hgrows ⊢
      generalize exports.install ⟨d, r, r, stack⟩ target w' = c at hgrows ⊢
      obtain ⟨w'', e | x⟩ := c <;> exact hgrows
  · have hw' := hw.after hsane hbound
    obtain rfl := hsane.same
    obtain ⟨w', e | target⟩ := b
    · exact .unchanged hsane.sound fun v hv => by cases hv
    have htarget := hsane.result target rfl
    have hrest := hinstall hsane.later htarget hw'
    dsimp only at hrest ⊢
    generalize exports.install ⟨d, r, r, stack⟩ target w' = c at hrest ⊢
    generalize exports.install ⟨d', r, r, stack⟩ target w' = c' at hrest ⊢
    refine hrest.andThen ?_ fun hsane' => ?_
    · obtain ⟨w'', e | x⟩ := c <;> exact .refl w''
    · obtain rfl := hsane'.same
      obtain ⟨w'', e | x⟩ := c'
      · exact .unchanged hsane'.sound fun v hv => by cases hv
      · refine .unchanged hsane'.sound fun v hv => ?_
        cases hv
        exact R.mono (hsane'.later.heaps r).size_le htarget

mutual
theorem extract [LawfulMachine] {w : World φ σ} (v : Value φ)
    (hv : v.Leads know.callback ≤ w.held R) (hw : G.Ready R know r w) :
    G.Sane R know (Placed R r) w (v.extract ⟨d, r, r, stack⟩ w)
      (v.extract ⟨d', r, r, stack⟩ w) := by
  have hsimple {v : Val} (hv : ∀ o, v ≠ .object o) : Placed R r w (.ok v) := by
    intro x hx
    cases hx
    exact Val.sound_of_not_object hv
  cases v with
  | null => exact .unchanged hw.sound (hsimple fun o ho => by cases ho)
  | undefined => exact .unchanged hw.sound (hsimple fun o ho => by cases ho)
  | number id x =>
      refine .unchanged hw.sound fun v hv => ?_
      cases hv
      exact Val.sound_ofNumber x
  | string id s =>
      have hgrants : Crossing.grants ⟨d', r, r, stack⟩ w (Crossing.stringBytes s) =
          Crossing.grants ⟨d, r, r, stack⟩ w (Crossing.stringBytes s) := rfl
      simp only [Value.extract, hgrants]
      split
      · exact .unchanged hw.sound (hsimple fun o ho => by cases ho)
      · exact .unchanged hw.sound fun v hv => by cases hv
  | function id f => exact hw.restore stack d d' hv
  | object id exports =>
      exact A.extract_object stack id
        (fun hl htarget hw' => install exports (hv.trans hl.held_le) htarget hw') hw

theorem install [LawfulMachine] {w : World φ σ} (exports : Namespace φ)
    (he : exports.Leads know.callback ≤ w.held R)
    {target : ObjectRef} (htarget : R.Allows (w.heap r).size target)
    (hw : G.Ready R know r w) :
    G.Sane R know (fun _ _ => True) w (exports.install ⟨d, r, r, stack⟩ target w)
      (exports.install ⟨d', r, r, stack⟩ target w) := by
  cases exports with
  | empty => exact .unchanged hw.sound trivial
  | entry name item rest =>
      have hitem := realise item name (fun s o ho => he s o (.inl ho)) hw
      have hbound := (A.kept.realise (c := ⟨d, r, r, stack⟩) item name (w := w) ⟨⟩).bound
      simp only [Namespace.install]
      generalize item.realise ⟨d, r, r, stack⟩ name w = a at hitem hbound ⊢
      generalize item.realise ⟨d', r, r, stack⟩ name w = b at hitem ⊢
      refine hitem.andThen ?_ fun hsane => ?_
      · obtain ⟨w', e | v⟩ := a
        · exact .refl w'
        · have hassign := (A.grown.assign (c := ⟨d, r, r, stack⟩) target name v (w := w') ⟨⟩).bound
          dsimp only at hassign ⊢
          generalize Crossing.assign ⟨d, r, r, stack⟩ target name v w' = c at hassign ⊢
          obtain ⟨w'', e | u⟩ := c
          · exact hassign
          · exact hassign.trans
              (A.grown.install (c := ⟨d, r, r, stack⟩) rest target (w := w'') ⟨⟩).bound
      · obtain rfl := hsane.same
        obtain ⟨w', e | v⟩ := b
        · exact .unchanged hsane.sound trivial
        · have hw' := hw.after hsane hbound
          have htarget' := R.mono (hsane.later.heaps r).size_le htarget
          have hassign := A.assign stack name htarget' (hsane.result v rfl) hw'
          have hbound' := (A.kept.assign (c := ⟨d, r, r, stack⟩) target name v (w := w') ⟨⟩).bound
          dsimp only at hw' hassign hbound' ⊢
          generalize Crossing.assign ⟨d, r, r, stack⟩ target name v w' = c at hassign hbound' ⊢
          generalize Crossing.assign ⟨d', r, r, stack⟩ target name v w' = c' at hassign ⊢
          have hgrows := (A.grown.install (c := ⟨d, r, r, stack⟩) rest target (w := c.1) ⟨⟩).bound
          refine hassign.andThen ?_ fun hsane' => ?_
          · obtain ⟨w'', e | u⟩ := c
            · exact .refl w''
            · exact hgrows
          · obtain rfl := hsane'.same
            obtain ⟨w'', e | u⟩ := c'
            · exact .unchanged hsane'.sound trivial
            · have hlater := hsane.later.trans hsane'.later
              refine install rest (fun s o ho => ?_) ?_ (hw'.after hsane' hbound')
              · exact hlater.held_le s o (he s o (.inr ho))
              · exact R.mono (hsane'.later.heaps r).size_le htarget'

theorem realise [LawfulMachine] {w : World φ σ} (item : Export φ) (name : String)
    (hi : item.Leads know.callback ≤ w.held R)
    (hw : G.Ready R know r w) :
    G.Sane R know (Placed R r) w (item.realise ⟨d, r, r, stack⟩ name w)
      (item.realise ⟨d', r, r, stack⟩ name w) := by
  cases item with
  | value v => exact extract v hi hw
  | callback f =>
      have hnative := hw.makeNative stack d d' name hi
      simp only [Export.realise]
      generalize Crossing.makeNative ⟨d, r, r, stack⟩ name f w = a at hnative ⊢
      generalize Crossing.makeNative ⟨d', r, r, stack⟩ name f w = b at hnative ⊢
      refine hnative.andThen ?_ fun hsane => ?_
      · obtain ⟨w', e | o⟩ := a <;> exact .refl w'
      · obtain rfl := hsane.same
        obtain ⟨w', e | o⟩ := b
        · exact .unchanged hsane.sound fun v hv => by cases hv
        · refine .unchanged hsane.sound fun v hv => ?_
          cases hv
          exact hsane.result o rfl
  | nested exports =>
      exact A.extract_object stack 0
        (fun hl htarget hw' => install exports (hi.trans hl.held_le) htarget hw') hw
end

variable [LawfulMachine]

/-- A list of host values goes in sanely; what went in can still be referred to later. -/
theorem extractAll {vs : List (Value φ)} (hvs : ∀ v ∈ vs, v.Leads know.callback ≤ w.held R)
    (hw : G.Ready R know r w) :
    G.Sane R know (fun w' x => ∀ vs, x = .ok vs → ∀ v ∈ vs, v.Sound R (w'.heap r).size) w
      (Crossing.extractAll ⟨d, r, r, stack⟩ vs w) (Crossing.extractAll ⟨d', r, r, stack⟩ vs w) := by
  induction vs generalizing w with
  | nil =>
      refine .unchanged hw.sound fun vs hvs v hv => ?_
      cases hvs
      exact absurd hv List.not_mem_nil
  | cons v vs ih =>
      have hvalue := A.extract stack v (hvs v List.mem_cons_self) hw
      have hbound := (A.kept.extract (c := ⟨d, r, r, stack⟩) v (w := w) ⟨⟩).bound
      simp only [Crossing.extractAll]
      generalize v.extract ⟨d, r, r, stack⟩ w = a at hvalue hbound ⊢
      generalize v.extract ⟨d', r, r, stack⟩ w = b at hvalue ⊢
      have hgrows := (A.grown.extractAll (c := ⟨d, r, r, stack⟩) vs (w := a.1) ⟨⟩).bound
      refine hvalue.andThen ?_ fun hsane => ?_
      · obtain ⟨w', e | x⟩ := a
        · exact .refl w'
        · dsimp only at hgrows ⊢
          generalize Crossing.extractAll ⟨d, r, r, stack⟩ vs w' = c at hgrows ⊢
          obtain ⟨w'', e | xs⟩ := c <;> exact hgrows
      · have hrest := ih (fun v' hv' => (hvs v' (List.mem_cons_of_mem v hv')).trans
          hsane.later.held_le) (hw.after hsane hbound)
        obtain rfl := hsane.same
        obtain ⟨w', e | x⟩ := b
        · exact .unchanged hsane.sound fun vs hvs => by cases hvs
        · dsimp only at hrest ⊢
          generalize Crossing.extractAll ⟨d, r, r, stack⟩ vs w' = c at hrest ⊢
          generalize Crossing.extractAll ⟨d', r, r, stack⟩ vs w' = c' at hrest ⊢
          refine hrest.andThen ?_ fun hsane' => ?_
          · obtain ⟨w'', e | xs⟩ := c <;> exact .refl w''
          · obtain rfl := hsane'.same
            obtain ⟨w'', e | xs⟩ := c'
            · exact .unchanged hsane'.sound fun vs hvs => by cases hvs
            · refine .unchanged hsane'.sound fun vs hvs v' hv' => ?_
              cases hvs
              rcases List.mem_cons.mp hv' with rfl | hv'
              · exact (hsane.result _ rfl).mono (hsane'.later.heaps r).size_le
              · exact hsane'.result _ rfl v' hv'

/-! ## Sources, calls and replies -/

/-- Code runs to its end, and the host gets to know how it ended. -/
theorem finish {x : Script.Action Val} (hx : x.Conducts R (w.heap r) (.val R))
    (hw : G.Ready R know r w) :
    G.Sane R know (fun w' y => Known know (w'.held R) y) w
      (Crossing.conclude ⟨d, r, r, stack⟩ (Crossing.run ⟨d, r, r, stack⟩ x w).2
        (Crossing.run ⟨d, r, r, stack⟩ x w).1)
      (Crossing.conclude ⟨d', r, r, stack⟩ (Crossing.run ⟨d', r, r, stack⟩ x w).2
        (Crossing.run ⟨d', r, r, stack⟩ x w).1) := by
  have hrun := A.run stack hw hx
  have hbound := (A.kept.run (c := ⟨d, r, r, stack⟩) x (w := w) ⟨⟩).bound
  generalize Crossing.run ⟨d, r, r, stack⟩ x w = a at hrun hbound ⊢
  generalize Crossing.run ⟨d', r, r, stack⟩ x w = b at hrun ⊢
  refine hrun.andThen (A.grown.conclude (c := ⟨d, r, r, stack⟩) a.2 (w := a.1) ⟨⟩).bound
    fun hsane => ?_
  obtain rfl := hsane.same
  exact A.conclude stack hsane.result (hw.after hsane hbound)

theorem runSource (source : String) (hw : G.Ready R know r w) :
    G.Sane R know (fun w' x => Known know (w'.held R) x) w
      (Crossing.runSource ⟨d, r, r, stack⟩ source w)
      (Crossing.runSource ⟨d', r, r, stack⟩ source w) := by
  unfold Crossing.runSource
  cases nulPosition? source with
  | some n => exact .unchanged hw.sound fun x hx => by cases hx
  | none => exact A.finish stack (runSource_conducts stack source) hw

theorem callValue {x : Val} {arguments : List (Value φ)} (hx : x.Sound R (w.heap r).size)
    (harguments : ∀ v ∈ arguments, v.Leads know.callback ≤ w.held R)
    (hw : G.Ready R know r w) :
    G.Sane R know (fun w' x => Known know (w'.held R) x) w
      (Crossing.callValue ⟨d, r, r, stack⟩ x arguments w)
      (Crossing.callValue ⟨d', r, r, stack⟩ x arguments w) := by
  have hall := A.extractAll stack harguments hw
  have hbound := (A.kept.extractAll (c := ⟨d, r, r, stack⟩) arguments (w := w) ⟨⟩).bound
  unfold Crossing.callValue
  generalize Crossing.extractAll ⟨d, r, r, stack⟩ arguments w = a at hall hbound ⊢
  generalize Crossing.extractAll ⟨d', r, r, stack⟩ arguments w = b at hall ⊢
  refine hall.andThen ?_ fun hsane => ?_
  · obtain ⟨w', e | vs⟩ := a
    · exact .refl w'
    · exact A.finish_grows stack _ w'
  · have hw' := hw.after hsane hbound
    obtain rfl := hsane.same
    obtain ⟨w', e | vs⟩ := b
    · exact .unchanged hsane.sound fun x hx => by cases hx
    · have hglobal : (Val.object Script.Place.global).Sound R (w'.heap r).size :=
        (hsane.sound.heaps r).place (by decide)
      exact A.finish stack ((LawfulMachine.conducts R stack).call
        (hx.mono (hsane.later.heaps r).size_le) hglobal (hsane.result vs rfl)) hw'

theorem callContext {f : FunctionRef} {arguments : List (Value φ)} (hf : f.Leads ≤ w.held R)
    (harguments : ∀ v ∈ arguments, v.Leads know.callback ≤ w.held R)
    (hw : G.Ready R know r w) :
    G.Sane R know (fun w' x => Known know (w'.held R) x) w
      (Crossing.callFunction ⟨d, r, r, stack⟩ f arguments w)
      (Crossing.callFunction ⟨d', r, r, stack⟩ f arguments w) := by
  have hrestore := hw.restore stack d d' hf
  have hbound := (A.kept.restore (c := ⟨d, r, r, stack⟩) f w).bound
  rw [Crossing.callFunction_eq, Crossing.callFunction_eq]
  generalize Crossing.restore ⟨d, r, r, stack⟩ f w = a at hrestore hbound ⊢
  generalize Crossing.restore ⟨d', r, r, stack⟩ f w = b at hrestore ⊢
  refine hrestore.andThen ?_ fun hsane => ?_
  · obtain ⟨w', e | x⟩ := a
    · exact .refl w'
    · exact A.callValue_grows stack x arguments w'
  · have hw' := hw.after hsane hbound
    obtain rfl := hsane.same
    obtain ⟨w', e | x⟩ := b
    · exact .unchanged hsane.sound fun x hx => by cases hx
    · exact A.callValue stack (hsane.result x rfl)
        (fun v hv => (harguments v hv).trans hsane.later.held_le) hw'

theorem reply {completion : Completion φ}
    (hcompletion : ∀ v, completion = .returned v → v.Leads know.callback ≤ w.held R)
    (hw : G.Ready R know r w) :
    G.Sane R know (fun w' x => x.Sound R (w'.heap r).size) w
      (Crossing.reply ⟨d, r, r, stack⟩ completion w)
      (Crossing.reply ⟨d', r, r, stack⟩ completion w) := by
  cases completion with
  | thrown message => exact .unchanged hw.sound trivial
  | returned v =>
      have hvalue := A.extract stack v (hcompletion v rfl) hw
      simp only [Crossing.reply]
      generalize v.extract ⟨d, r, r, stack⟩ w = a at hvalue ⊢
      generalize v.extract ⟨d', r, r, stack⟩ w = b at hvalue ⊢
      refine hvalue.andThen ?_ fun hsane => ?_
      · obtain ⟨w', e | x⟩ := a <;> exact .refl w'
      · obtain rfl := hsane.same
        obtain ⟨w', e | x⟩ := b
        · exact .unchanged hsane.sound trivial
        · exact .unchanged hsane.sound (hsane.result x rfl)

end Regime.Answers

end ScriptHost
