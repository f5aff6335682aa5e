import ScriptHost.Proofs.Callback.Recording
import ScriptHost.Proofs.World.History

/-!
# Host calls reach the callback that was exported

A function that a script calls carries a key: the identifier of the realm that it was made
in and a slot of that realm's table.  Three things have to fit together for the callback
that was exported to run when such a function is called: the key, which never changes; the
table, which is only added to; and the active stack, on which the realm has to be found.

What should happen is `invokeExported`.  `Reaching` says of one object that it does: code that
calls the object, and goes on in any way, comes to the invocation of the callback and goes on
with the reply.

It remains to be seen that every host call of a run is such a call, and that its callback runs
once.  A recording host puts down its callbacks as they run.  The dispatchers `watching` put down
a call where it is made, and only the call of an object that was made for a callback, while
its realm is active; they refuse every other host call.  If no run of a recording host can
tell the two apart, the same calls are put down in both, one by one.
-/

namespace ScriptHost

open Script (HostCall Outcome Reply RefRule Run Val)

variable {φ γ σ : Type}

section

variable [Machine]

/-! ## How a callback should be called -/

/-- Answers a host call with a callback of a realm: the arguments become host values, the
callback runs on them, once, and what it ends with goes back into the realm. -/
def invokeExported (host : Host φ γ σ) (d : Dispatcher φ σ) (r : RealmRef) (f : φ)
    (call : HostCall) (w : World φ σ) : World φ σ × Reply :=
  let c : Crossing φ σ := ⟨d, r, r, call.stack⟩
  match c.toValues call.arguments w with
  | (w, .error e) => (w, .failed e.message)
  | (w, .ok arguments) =>
    let (w, completion) :=
      (host.behave f ⟨r, arguments⟩).perform (services host d call.stack) (some ⟨r, arguments⟩) {} w
    c.reply completion w

/-- There are fewer than `2 ^ 32` realms, and each has fewer than `2 ^ 32` callbacks. -/
structure World.Small (w : World φ σ) : Prop where
  realms : w.realms.size < 2 ^ 32
  natives (r : RealmRef) : r < w.realms.size → (w.realm r).natives.size < 2 ^ 32

/-- The call is one of an object that was made for a callback, whose realm is active. -/
structure CallsExported (r : RealmRef) (f : φ) (call : HostCall) (w : World φ σ) : Prop where
  small : w.Small
  active : r ∈ w.active
  exported : ∃ o, Exported r o f w ∧ (w.heap r).native? o = some call.key

/-- At every depth of nesting a call of an exported callback runs that callback. -/
structure Exact (host : Host φ γ σ) (D : Nat → Dispatcher φ σ) : Prop where
  refuses (context : RealmRef) (call : HostCall) (w : World φ σ) :
    D 0 context call w = (w, .tooDeep)
  runs (n : Nat) {r : RealmRef} {f : φ} {call : HostCall} {w : World φ σ} :
    CallsExported r f call w → D (n + 1) r call w = invokeExported host (D n) r f call w

/-- The callback gets as many arguments as the script passed, each the host value of the
script's in the world that converting those in front of it has led to, and undefined past
the end. -/
structure Invocation.Receives (i : Invocation φ) (c : Crossing φ σ) (vs : List Val)
    (w : World φ σ) : Prop where
  length : i.arguments.length = vs.length
  argument (n : Nat) (v : Val) : vs[n]? = some v →
    (c.toValue v (c.toValues (vs.take n) w).1).2 = .ok (i.argument n)
  beyond (n : Nat) : vs.length ≤ n → i.argument n = .undefined

/-! ## Watching calls -/

/-- Puts down a call of a callback. -/
def World.note (w : World φ (σ × List (Invoked φ))) (i : Invoked φ) :
    World φ (σ × List (Invoked φ)) :=
  { w with host := (w.host.1, w.host.2 ++ [i]) }

/-- Invokes a callback of a realm like `invokeExported`, and puts that down here: once, when
the arguments have become host values. -/
def invokeWatched (host : Host φ γ σ) (d : Dispatcher φ (σ × List (Invoked φ))) (r : RealmRef)
    (f : φ) (call : HostCall) (w : World φ (σ × List (Invoked φ))) :
    World φ (σ × List (Invoked φ)) × Reply :=
  let c : Crossing φ (σ × List (Invoked φ)) := ⟨d, r, r, call.stack⟩
  match c.toValues call.arguments w with
  | (w, .error e) => (w, .failed e.message)
  | (w, .ok arguments) =>
    let w := w.note ⟨f, r, arguments, w.current?.map w.idOf⟩
    let (w, completion) := (host.behave f ⟨r, arguments⟩).widen.perform
      (services host.recording d call.stack) (some ⟨r, arguments⟩) {} w
    c.reply completion w

open Classical in
/-- Invokes exported callbacks whose realm is active, puts down each such call, and refuses every
other host call. -/
noncomputable def watching (host : Host φ γ σ) :
    Nat → Dispatcher φ (σ × List (Invoked φ))
  | 0 => fun _ _ w => (w, .tooDeep)
  | n + 1 => fun r call w =>
    if h : ∃ f, CallsExported r f call w then invokeWatched host (watching host n) r h.choose call w
    else (w, .failed "not exported")

/-- Code that calls an object, after it has led to a heap, either finds that the engine refuses
the call for want of stack or memory, or comes to the invocation of a callback and goes on with
the reply. -/
def Reaching (host : Host φ γ σ) (n : Nat) (r : RealmRef) (f : φ) (o : ObjectRef)
    (h : Script.Heap) (w : World φ (σ × List (Invoked φ))) : Prop :=
  ∀ (stack : Script.Stack) (receiver : Val) (vs : List Val),
    (∃ why : Script.Refusal,
      (Machine.evaluator stack).call (.object o) receiver vs h = why.raise h) ∨
    ∃ key inside, h.native? o = some key ∧
      ∀ (α : Type) (next : Script.Heap → Outcome Val → Run α),
        drive (dispatcher host.recording (n + 1)) r
            (((Machine.evaluator stack).call (.object o) receiver vs h).andThen next) w =
          let (w', reply) := invokeWatched host (dispatcher host.recording n) r f
            ⟨key, vs, inside.stack⟩ (w.setHeap r h)
          drive (dispatcher host.recording (n + 1)) r
            ((Script.afterReply inside reply (w'.heap r)).andThen next) w'

variable {host : Host φ γ σ} {d : Dispatcher φ σ} {r : RealmRef} {f : φ} {call : HostCall}
variable {w w' : World φ σ}

/-! ## Arguments -/

section Arguments

variable {c : Crossing φ σ} {v : Val} {vs : List Val} {x : Value φ} {xs : List (Value φ)}
variable {w₁ : World φ σ}

theorem Crossing.toValues_cons (h : c.toValues (v :: vs) w = (w', .ok xs)) :
    ∃ w₁ x ys, c.toValue v w = (w₁, .ok x) ∧ c.toValues vs w₁ = (w', .ok ys) ∧ xs = x :: ys := by
  rw [Crossing.toValues] at h
  rcases hvalue : c.toValue v w with ⟨w₁, e | x⟩
  · rw [hvalue] at h
    cases h
  · rw [hvalue] at h
    dsimp only at h
    rcases hrest : c.toValues vs w₁ with ⟨w₂, e | ys⟩
    · rw [hrest] at h
      cases h
    · rw [hrest] at h
      cases h
      exact ⟨w₁, x, ys, rfl, hrest, rfl⟩

/-- The world after some values is the one after the rest of them, from the first on. -/
theorem Crossing.fst_toValues_cons (h : c.toValue v w = (w₁, .ok x)) :
    (c.toValues (v :: vs) w).1 = (c.toValues vs w₁).1 := by
  rw [Crossing.toValues, h]
  dsimp only
  rcases hrest : c.toValues vs w₁ with ⟨w₂, e | ys⟩
  · rfl
  · rfl

/-- Arguments that all become host values are received. -/
theorem Crossing.receives_of_toValues (h : c.toValues vs w = (w', .ok xs)) (r : RealmRef) :
    (Invocation.mk r xs).Receives c vs w := by
  induction vs generalizing w xs with
  | nil =>
      cases h
      refine ⟨rfl, fun n v hv => ?_, fun n _ => rfl⟩
      rw [List.getElem?_nil] at hv
      cases hv
  | cons v vs ih =>
      obtain ⟨w₁, x, ys, hvalue, hrest, rfl⟩ := Crossing.toValues_cons h
      obtain ⟨hlength, hargument, hbeyond⟩ := ih hrest
      refine ⟨congrArg Nat.succ hlength, fun n v' hv' => ?_, fun n hn => ?_⟩
      · cases n with
        | zero =>
            cases hv'
            exact congrArg Prod.snd hvalue
        | succ n =>
            rw [List.take_succ_cons, Crossing.fst_toValues_cons hvalue]
            exact hargument n v' hv'
      · cases n with
        | zero => cases hn
        | succ n => exact hbeyond n (Nat.le_of_succ_le_succ hn)

end Arguments

/-! ## Finding the callback -/

omit [Machine] in
/-- A realm that is active is the one that its identifier leads to. -/
theorem World.findActive?_of_mem (hn : w.Numbered) (hfew : w.realms.size < 2 ^ 32)
    (hr : r < w.realms.size) (hactive : r ∈ w.active) : w.findActive? (w.idOf r) = some r := by
  unfold World.findActive?
  cases hfound : w.active.find? fun s => w.idOf s == w.idOf r with
  | none =>
      have hnone := List.find?_eq_none.mp hfound r hactive
      exact absurd (beq_self_eq_true _) hnone
  | some s =>
      have hs := List.find?_some hfound
      exact congrArg some (hn.eq_of_idOf hfew hr (by simpa using hs))

/-- The slot in the key of an exported callback is the one that it is in. -/
theorem CallsExported.native? (h : CallsExported r f call w) :
    call.key.realm = w.idOf r ∧ (w.realm r).native? call.key.slot = some f := by
  obtain ⟨o, hf, ho⟩ := h.exported
  obtain ⟨hr, n, hslot, hkey⟩ := hf.native?
  rw [hkey, Option.some.injEq] at ho
  rw [← ho]
  refine ⟨rfl, ?_⟩
  have hn : n < (w.realm r).natives.size := (Array.getElem?_eq_some_iff.mp hslot).1
  have hfits : (UInt32.ofNat n).toNat = n := by
    rw [UInt32.toNat_ofNat']
    exact Nat.mod_eq_of_lt (Nat.lt_trans hn (h.small.natives r hr))
  unfold Realm.native?
  rwa [hfits]

/-- A call is one of one callback only. -/
theorem CallsExported.callback_eq {g : φ} (h : CallsExported r f call w)
    (h' : CallsExported r g call w) : f = g :=
  Option.some.inj (h.native?.2.symm.trans h'.native?.2)

/-- Once the realm is found and the callback is in the slot, that callback is invoked. -/
theorem answer_eq_invokeExported (hr : w.findActive? call.key.realm = some r)
    (hslot : ((Crossing.toValues ⟨d, r, r, call.stack⟩ call.arguments w).1.realm r).native?
      call.key.slot = some f) :
    answer host d r call w = invokeExported host d r f call w := by
  unfold answer answerProbed answerWith invokeExported
  dsimp only
  rw [hr]
  dsimp only
  generalize Crossing.toValues ⟨d, r, r, call.stack⟩ call.arguments w = a at hslot ⊢
  obtain ⟨w₁, e | arguments⟩ := a
  · rfl
  · dsimp only at hslot ⊢
    rw [World.invokeProbed, hslot]
    rfl

/-- The program answers a call of an exported callback by invoking that callback: its realm is
found on the active stack, and while the arguments are converted the table only grows. -/
theorem CallsExported.answer_eq (hd : ∀ context call (w : World φ σ), Grows w (d context call w).1)
    (hn : w.Numbered) (hr : r < w.realms.size) (h : CallsExported r f call w) :
    answer host d r call w = invokeExported host d r f call w := by
  obtain ⟨hid, hslot⟩ := h.native?
  have hfound : w.findActive? call.key.realm = some r :=
    hid ▸ World.findActive?_of_mem hn h.small.realms hr h.active
  have hself : Comparison (fun _ : World φ σ => True) Grows d d := .self Grows.frame hd
  have hgrown := (hself.toValues (c := ⟨d, r, r, call.stack⟩) call.arguments (w := w) ⟨⟩).bound
  exact answer_eq_invokeExported hfound (hgrown.native? hslot)

/-- What a recording host puts down is what is put down where the call is made. -/
theorem invokeExported_recording (d : Dispatcher φ (σ × List (Invoked φ)))
    (w : World φ (σ × List (Invoked φ))) :
    invokeExported host.recording d r f call w = invokeWatched host d r f call w := by
  unfold invokeExported invokeWatched
  dsimp only
  generalize Crossing.toValues ⟨d, r, r, call.stack⟩ call.arguments w = a
  obtain ⟨w', e | arguments⟩ := a
  · rfl
  · rfl

/-- An object that was made for a callback reaches it while its realm is active. -/
theorem Exported.reaching [LawfulMachine] {o : ObjectRef} {h : Script.Heap}
    {w : World φ (σ × List (Invoked φ))} (hexported : Exported r o f (w.setHeap r h))
    (hn : (w.setHeap r h).Numbered) (hsmall : (w.setHeap r h).Small) (hactive : r ∈ w.active)
    (n : Nat) : Reaching host n r f o h w := by
  intro stack receiver vs
  obtain ⟨hr, slot, -, hkey⟩ := hexported.native?
  have hkey' := hkey
  rw [w.heap_setHeap_self (w.size_setHeap r h ▸ hr)] at hkey'
  refine (LawfulMachine.asks stack hkey' receiver vs).imp_right fun ⟨inside, hcall⟩ =>
    ⟨_, inside, hkey', fun α next => ?_⟩
  have hcalls : CallsExported r f ⟨⟨(w.setHeap r h).idOf r, UInt32.ofNat slot⟩, vs, inside.stack⟩
      (w.setHeap r h) := ⟨hsmall, hactive, o, hexported, hkey⟩
  have hanswer : answer host.recording _ _ _ _ = _ :=
    hcalls.answer_eq (dispatcher_grows host.recording n) hn hr
  rw [hcall, ← invokeExported_recording, ← hanswer]
  rfl

/-- Watching is exact about a recording host. -/
theorem watching_exact (host : Host φ γ σ) : Exact host.recording (watching host) where
  refuses _ _ _ := rfl
  runs n {r f call w} h := by
    have hsome : ∃ f, CallsExported r f call w := ⟨f, h⟩
    simp only [watching]
    rw [dif_pos hsome, ← h.callback_eq hsome.choose_spec, invokeExported_recording]

/-! ## Runs that stay small -/

omit [Machine] in
theorem World.Small.back (h : w'.Small) (hg : Grows w w') : w.Small := by
  refine ⟨Nat.lt_of_le_of_lt hg.size_le h.realms, fun r hr => ?_⟩
  have hlength := (hg.natives r).length_le
  rw [Array.length_toList, Array.length_toList] at hlength
  exact Nat.lt_of_le_of_lt hlength (h.natives r (Nat.lt_of_lt_of_le hr hg.size_le))

/-- Code of a realm is at work only while that realm is active. -/
def Regime.calling : Regime φ σ where
  Within := World.Small
  few h := h.realms
  back hg h := h.back hg
  Rel := Keeps
  frame := Keeps.frame
  grows h := h.2
  At r w := r ∈ w.active
  stays h hk := hk.1.active ▸ h
  enters _ _ _ := List.mem_cons_self

variable [LawfulMachine]

theorem dispatcher_keeps (hb : host.Balanced) (n : Nat) (context : RealmRef) (call : HostCall)
    (w : World φ σ) : Keeps w (dispatcher host n context call w).1 :=
  ⟨dispatcher_sameStacks hb n context call w, dispatcher_grows host n context call w⟩

theorem perform_keeps (hb : host.Balanced) (n : Nat) (left : Script.Stack) (f : φ)
    (i : Invocation φ) (w : World φ σ) :
    Keeps w ((host.behave f i).perform (services host (dispatcher host n) left) (some i) {}
      w).1 := by
  have hs := services_restore hb (dispatcher_sameStacks hb n) left
  have hstacks : _ = w.active ∧ _ = w.live :=
    (hb (.callback f i)).perform hs (some i) {} rfl rfl
  exact ⟨⟨hstacks.1, hstacks.2⟩,
    Body.perform_grows (services_grow host (dispatcher_grows host n) left) _ _ _ w⟩

/-- Exact dispatchers answer like those of the program, at every nesting: every host call meets
the condition under which an exact dispatcher has to invoke the exported callback. -/
theorem Exact.answers (hb : host.Balanced) {D : Nat → Dispatcher φ σ} (hD : Exact host D)
    (n : Nat) :
    Regime.calling.Answers .any (.all : Knowledge φ γ σ) (dispatcher host n) (D n) := by
  induction n with
  | zero =>
      refine ⟨dispatcher_keeps hb 0, fun {r w} call hw _ => ?_⟩
      rw [hD.refuses]
      exact .unchanged hw.sound trivial
  | succ n ih =>
      refine ⟨dispatcher_keeps hb (n + 1), fun {r w} call hw hcall hwithin => ?_⟩
      have hsane := ih.answer host.honest_all (fun _ _ _ => rfl) (perform_keeps hb n) hcall hw
        hwithin
      have hsmall : w.Small := hwithin.back (dispatcher_grows host (n + 1) r call w)
      obtain ⟨o, ho⟩ := hcall.native
      obtain ⟨f, hf⟩ := hw.sound.natives r o _ ho
      have hcalls : CallsExported r f call w := ⟨hsmall, hw.at_work, o, hf, ho⟩
      obtain ⟨hid, hslot⟩ := hcalls.native?
      have hfound : w.findActive? call.key.realm = some r :=
        hid ▸ World.findActive?_of_mem hw.sound.numbered hsmall.realms hw.made hw.at_work
      -- Both convert the arguments alike, and the table only grows meanwhile.
      have hvalues := ih.toValues call.stack hcall.arguments hw
        (hwithin.back (toValues_grows_answer host (dispatcher_grows host n) r call hfound))
      have hexact : answer host (D n) r call w = invokeExported host (D n) r f call w := by
        refine answer_eq_invokeExported hfound ?_
        rw [hvalues.same]
        exact hvalues.later.toGrows.native? hslot
      rw [hD.runs n hcalls, ← hexact]
      exact hsane

/-! ## Every history -/

/-- Whatever happens in a small world is sound. -/
theorem Host.Reaches.sound (h : host.Reaches w) (hsmall : w.Small) :
    w.Sound .any (.all : Knowledge φ γ σ) :=
  h.sound_of_few hsmall.realms

/-- Exact dispatchers run and call like those of the program, from every reachable world on. -/
structure Exact.Same (host : Host φ γ σ) (D : Nat → Dispatcher φ σ) (n : Nat)
    (left : Script.Stack) (w : World φ σ) : Prop where
  run (engine : Engine γ) (source : String) :
    (runEngine host (dispatcher host n) left engine source w).1.Small →
      runEngine host (D n) left engine source w =
        runEngine host (dispatcher host n) left engine source w
  call (f : FunctionRef) (arguments : List (Value φ)) :
    (callFunction host (dispatcher host n) left f arguments w).1.Small →
      callFunction host (D n) left f arguments w =
        callFunction host (dispatcher host n) left f arguments w
  invoke (r : RealmRef) (slot : UInt32) (arguments : List (Value φ)) :
    (w.invoke host (services host (dispatcher host n) left) r slot arguments).1.Small →
      w.invoke host (services host (D n) left) r slot arguments =
        w.invoke host (services host (dispatcher host n) left) r slot arguments

theorem Exact.same (hb : host.Balanced) {D : Nat → Dispatcher φ σ} (hD : Exact host D)
    (hw : host.Reaches w) (n : Nat) (left : Script.Stack) : Exact.Same host D n left w := by
  have hserves := (hD.answers hb n).serves host.honest_all left
  have hany {K : Functions} {w : World φ σ} : K ≤ w.held .any := fun _ _ _ => trivial
  have hgrow := services_grow host (dispatcher_grows host n) left
  refine ⟨fun engine source hsmall => ?_, fun f arguments hsmall => ?_,
    fun r slot arguments hsmall => ?_⟩
  · have hback := hsmall.back (hgrow.run engine source w)
    exact (hserves.run engine source hany (hw.sound hback) hsmall).same
  · have hback := hsmall.back (hgrow.call f arguments w)
    exact (hserves.call hany (fun _ _ => hany) (hw.sound hback) hsmall).same
  · have hback := hsmall.back (invoke_grows host hgrow r slot arguments w)
    exact (hserves.invoke host.honest_all (fun _ _ _ => rfl) r slot (fun _ _ => hany)
      (hw.sound hback) hsmall).same

/-- Native dispatch is exact.  At every point of every history, code that calls an object that was
made for a callback of an active realm comes to the invocation of that callback, on the host
values of the arguments.  And in the runs, calls and invocations of callbacks that a host
makes in any reachable world, every host call is such a call, and its callback runs once: what
a recording host puts down is what is put down by watching just those calls. -/
theorem native_dispatch_exact (hb : host.Balanced) {w : World φ (σ × List (Invoked φ))}
    (hw : host.recording.Reaches w) (n : Nat) (left : Script.Stack) :
    (∀ (r : RealmRef) (f : φ) (o : ObjectRef) (h : Script.Heap)
        (inside : World φ (σ × List (Invoked φ))),
      host.recording.Goes w (inside.setHeap r h) → (inside.setHeap r h).Small →
        r ∈ inside.active → Exported r o f (inside.setHeap r h) → Reaching host n r f o h inside) ∧
    (∀ (c : Crossing φ σ) (vs : List Val) (arguments : List (Value φ)) (before after : World φ σ),
      c.toValues vs before = (after, .ok arguments) →
        (Invocation.mk c.realm arguments).Receives c vs before) ∧
    Exact.Same host.recording (watching host) n left w := by
  refine ⟨fun r f o h inside hgoes hsmall hactive hexported => ?_,
    fun c vs arguments before after h => Crossing.receives_of_toValues h c.realm,
    (watching_exact host).same hb.recording hw n left⟩
  have hback := hsmall.back hgoes.grows
  have hsound := (hgoes.later (hw.sound hback) hsmall.realms).2
  exact hexported.reaching hsound.numbered hsmall hactive n

instance (w : World φ σ) : Decidable w.Small :=
  decidable_of_iff (w.realms.size < 2 ^ 32 ∧
      ∀ r, r < w.realms.size → (w.realm r).natives.size < 2 ^ 32)
    ⟨fun h => ⟨h.1, h.2⟩, fun h => ⟨h.realms, h.natives⟩⟩

end

/-- A host whose one callback counts the arguments that it gets. -/
def countingHost : Host Unit Unit Nat where
  behave _ i := .remember (· + i.arguments.length) .done
  generate _ _ count := ⟨.entry "f" (.callback ()) .empty, 0, count⟩

/-- The functions among some values. -/
def functionsAmong (vs : List (Value Unit)) : List FunctionRef :=
  vs.filterMap fun v =>
    match v with
    | .function _ f => some f
    | _ => none

/-- The callback is called on its own object, twice. -/
def countingWorld : World Unit (Nat × List (Invoked Unit)) :=
  (countingHost.recording.run ⟨{}, ()⟩ "f(f, f)" (.start (0, []))).1

theorem native_dispatch_exact_countingHost :
    countingHost.Balanced ∧
      countingWorld.host.1 = 2 ∧
      countingWorld.host.2.map (fun i => (i.realm, functionsAmong i.arguments, i.current)) =
        [(0, [.captured 0 157, .captured 0 157], some 1)] ∧
      (runEngine countingHost.recording (watching countingHost Machine.nesting) (Machine.stack {})
        ⟨{}, ()⟩ "f(f, f)" (.start (0, []))).1 = countingWorld ∧
      Reaching countingHost 5 0 () 157 (countingWorld.heap 0) (countingWorld.enter 0).2 := by
  have hb : countingHost.Balanced := fun hbody => by cases hbody <;> rfl
  have hsmall : countingWorld.Small := by decide +kernel
  have hreaches : countingHost.recording.Reaches countingWorld := .run _ _ (.start (0, []))
  refine ⟨hb, by decide +kernel, by decide +kernel, ?_, ?_⟩
  · exact congrArg Prod.fst ((native_dispatch_exact hb (.start (0, [])) Machine.nesting
      (Machine.stack {})).2.2.run ⟨{}, ()⟩ "f(f, f)" hsmall)
  · have hsound := hreaches.sound hsmall
    have hgoes : countingHost.recording.Goes countingWorld _ := .entered (hsound.heaps 0)
      (by decide +kernel : 0 < countingWorld.realms.size)
    have hinside : ((countingWorld.enter 0).2.setHeap 0 (countingWorld.heap 0)).Small := by
      decide +kernel
    have hkey : (((countingWorld.enter 0).2.setHeap 0 (countingWorld.heap 0)).heap 0).native? 157 =
        some ⟨1, 0⟩ := by
      decide +kernel
    obtain ⟨f, hexported⟩ := (hgoes.later hsound hinside.realms).2.natives 0 157 _ hkey
    exact (native_dispatch_exact hb hreaches 5 (Machine.stack {})).1 0 f 157 _ _ hgoes hinside
      List.mem_cons_self hexported

end ScriptHost
