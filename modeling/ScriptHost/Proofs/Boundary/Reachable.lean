import ScriptHost.Proofs.Boundary.Confined
import ScriptHost.Proofs.World.History

/-!
# Every realm keeps to its own objects

In every world that a host reaches, at every step of every callback too, the references in
a realm are to objects of that realm, its host functions were made there, and its code runs
in its own heap.  A host that could make functions up could break this, so what it knows is
kept count of: it may hand over what it has been given, and nothing else.
-/

namespace ScriptHost

open Script (RefRule Val)

variable {φ γ σ : Type}

section

variable [Machine]

/-! ## Confined worlds -/

/-- The realms keep to themselves. -/
structure World.Confined (w : World φ σ) : Prop where
  numbered : w.Numbered
  /-- Every reference in a heap is to an object of that heap. -/
  heaps (r : RealmRef) : (w.heap r).Sound .bounded
  /-- Every host function in a heap was made there, for a callback of that realm. -/
  natives (r : RealmRef) (o : ObjectRef) (k : NativeKey) :
    (w.heap r).native? o = some k → k.realm = w.idOf r ∧ ∃ f, Exported r o f w
  /-- Code of a realm runs in the heap of that realm. -/
  contexts (r context : RealmRef) : w.context? r = some context → context = r

variable {know : Knowledge φ γ σ} {host : Host φ γ σ} {w : World φ σ}

theorem World.Sound.confined (hw : w.Sound .bounded know) (hfew : w.realms.size < 2 ^ 32) :
    w.Confined where
  numbered := hw.numbered
  heaps := hw.heaps
  natives r o k hk := by
    obtain ⟨f, hf⟩ := hw.natives r o k hk
    obtain ⟨-, n, -, hkey⟩ := hf.native?
    rw [hkey, Option.some.injEq] at hk
    exact ⟨hk ▸ rfl, f, hf⟩
  contexts _ _ hc := hw.eq_of_context? hfew hc

/-! ## What a host gets to know -/

/-- The functions that a result leads to. -/
def Learned (know : Knowledge φ γ σ) : Except Failure (Value φ) → Functions
  | .ok v => v.Leads know.callback
  | .error _ => fun _ _ => False

/-- The functions that the end of a callback leads to. -/
def Completion.Leads (know : Knowledge φ γ σ) : Completion φ → Functions
  | .returned v => v.Leads know.callback
  | .thrown _ => fun _ _ => False

omit [Machine] in
theorem learned_le {K : Functions} {x : Except Failure (Value φ)} (hx : Known know K x) :
    Learned know x ≤ K := by
  cases x with
  | ok v => exact hx v rfl
  | error e => exact fun _ _ h => h.elim

omit [Machine] in
theorem Completion.leads_le {K : Functions} {c : Completion φ} (hc : c.Sound know K) :
    c.Leads know ≤ K := by
  cases c with
  | returned v => exact hc v rfl
  | thrown message => exact fun _ _ h => h.elim

/-- The worlds that a host reaches that makes no functions up, with the functions that it
knows there: it runs, calls, makes realms of either kind, runs sources in them, hands
callbacks to them, invokes callbacks, makes realms active by itself, and uses what it
remembers and makes. -/
inductive Host.Roams (know : Knowledge φ γ σ) (host : Host φ γ σ) : Functions → World φ σ → Prop
  | start (s : σ) : know.host s ≤ ⊥ → host.Roams know ⊥ (.start s)
  | run (engine : Engine γ) (source : String) {K : Functions} {w : World φ σ} :
      host.Roams know K w → know.generator engine.generator ≤ K →
        host.Roams know (K ⊔ Learned know (host.run engine source w).2)
          (host.run engine source w).1
  | call (f : FunctionRef) (arguments : List (Value φ)) {K : Functions} {w : World φ σ} :
      host.Roams know K w → f.Leads ≤ K → (∀ v ∈ arguments, v.Leads know.callback ≤ K) →
        host.Roams know (K ⊔ Learned know (host.call f arguments w).2)
          (host.call f arguments w).1
  | createRealm (config : EngineConfig) (n : Namespace φ) {K : Functions} {w : World φ σ} :
      host.Roams know K w → n.Leads know.callback ≤ K →
        host.Roams know K (host.createRealm config n w).1
  | execute (r : RealmRef) (source : String) {K : Functions} {w : World φ σ} :
      host.Roams know K w →
        host.Roams know (K ⊔ Learned know (host.execute r source w).2)
          (host.execute r source w).1
  | addRealm (backend s : String) (stack : Script.Stack) {K : Functions} {w : World φ σ} :
      host.Roams know K w → host.Roams know K (w.addRealm backend (.text s) stack).2
  | register (r : RealmRef) (f : φ) {K : Functions} {w : World φ σ} :
      host.Roams know K w → know.callback f ≤ K → host.Roams know K (w.register r f).2
  | invoke (r : RealmRef) (slot : UInt32) (arguments : List (Value φ)) {K : Functions}
      {w : World φ σ} :
      host.Roams know K w → (∀ v ∈ arguments, v.Leads know.callback ≤ K) →
        host.Roams know (K ⊔ (host.invoke r slot arguments w).2.Leads know)
          (host.invoke r slot arguments w).1
  | enter (r : RealmRef) {K : Functions} {w : World φ σ} :
      host.Roams know K w → host.Roams know K (w.enter r).2
  | leave (g : World.Guard) {K : Functions} {w : World φ σ} :
      host.Roams know K w → host.Roams know K (w.leave g)
  | learn {K : Functions} {w : World φ σ} :
      host.Roams know K w → host.Roams know (K ⊔ know.host w.host) w
  | remember (taken : Nat) (s : σ) {K : Functions} {w : World φ σ} :
      host.Roams know K w → know.host s ≤ K →
        host.Roams know K { w with nextValue := w.nextValue + taken, host := s }

/-! ## Every reachable world -/

variable [LawfulMachine]
variable {probe : World φ σ → World φ σ}

theorem roaming_answers (hhost : host.Honest know) (hprobe : ∀ w, w.Confined → probe w = w)
    (n : Nat) :
    Regime.roaming.Answers .bounded know (dispatcher host n) (probedDispatcher probe host n) :=
  Regime.dispatcher_answers hhost (fun w hfew hw => hprobe w (hw.confined hfew))
    (dispatcher_grows host)
    (fun n left f i w => Body.perform_grows (services_grow host (dispatcher_grows host n) left)
      (some i) (host.behave f i) {} w) n

/-- A roaming host leaves a sound world in which all that it knows can be held. -/
theorem Host.Roams.sound (hhost : host.Honest know) {K : Functions} (h : host.Roams know K w)
    (hfew : w.realms.size < 2 ^ 32) : w.Sound .bounded know ∧ K ≤ w.held .bounded := by
  have A (n : Nat) :=
    roaming_answers hhost (fun w _ => rfl : ∀ w : World φ σ, w.Confined → id w = w) n
  have hgrown := Grows.comparison host Machine.nesting
  have hgrow := services_grow host (dispatcher_grows host Machine.nesting) (Machine.stack {})
  have hserves := (A Machine.nesting).serves hhost (Machine.stack {})
  have hback {w w' : World φ σ} (hg : Grows w w') (h : w'.realms.size < 2 ^ 32) :
      w.realms.size < 2 ^ 32 := Nat.lt_of_le_of_lt hg.size_le h
  induction h with
  | start s hs => exact ⟨.start (hs.trans bot_le), bot_le⟩
  | @run engine source K w _ hengine ih =>
      obtain ⟨hw, hK⟩ := ih (hback (hgrow.run engine source w) hfew)
      have hsane := hserves.run engine source (hengine.trans hK) hw hfew
      exact ⟨hsane.sound, sup_le (hK.trans hsane.later.held_le) (learned_le hsane.result)⟩
  | @call f arguments K w _ hf harguments ih =>
      obtain ⟨hw, hK⟩ := ih (hback (hgrow.call f arguments w) hfew)
      have hsane := hserves.call (hf.trans hK) (fun v hv => (harguments v hv).trans hK) hw hfew
      exact ⟨hsane.sound, sup_le (hK.trans hsane.later.held_le) (learned_le hsane.result)⟩
  | @createRealm config n K w _ hn ih =>
      have hgrows := (hgrown.createRealm (Machine.stack {}) config n (w := w) ⟨⟩).bound
      obtain ⟨hw, hK⟩ := ih (hback hgrows hfew)
      have hsane := (A Machine.nesting).createRealm _ config n (hn.trans hK) hw hfew
      exact ⟨hsane.sound, hK.trans hsane.later.held_le⟩
  | @execute r source K w _ ih =>
      have hgrows :=
        execute_grows (dispatcher_grows host Machine.nesting) (Machine.stack {}) r source w
      obtain ⟨hw, hK⟩ := ih (hback hgrows hfew)
      have hsane := roaming_execute (A Machine.nesting) (Machine.stack {}) r source hw hfew
      exact ⟨hsane.sound, sup_le (hK.trans hsane.later.held_le) (learned_le hsane.result)⟩
  | @addRealm backend s stack K w _ ih =>
      have hlater : w.Later (w.addRealm backend (.text s) stack).2 :=
        .addRealm w backend stack trivial
      obtain ⟨hw, hK⟩ := ih (hback hlater.toGrows hfew)
      exact ⟨hw.addRealm backend stack trivial, hK.trans hlater.held_le⟩
  | @register r f K w _ hf ih =>
      have hlater := World.Later.register w r f
      obtain ⟨hw, hK⟩ := ih (hback hlater.toGrows hfew)
      exact ⟨hw.register r (hf.trans hK), hK.trans hlater.held_le⟩
  | @invoke r slot arguments K w _ harguments ih =>
      obtain ⟨hw, hK⟩ := ih (hback (invoke_grows host hgrow r slot arguments w) hfew)
      have hsane := hserves.invoke hhost (fun _ _ _ => rfl) r slot
        (fun v hv => (harguments v hv).trans hK) hw hfew
      exact ⟨hsane.sound, sup_le (hK.trans hsane.later.held_le)
        (Completion.leads_le hsane.result)⟩
  | @enter r K w _ ih =>
      obtain ⟨hw, hK⟩ := ih hfew
      exact ⟨hw.withStacks _ hw.live, hK⟩
  | @leave g K w _ ih =>
      obtain ⟨hw, hK⟩ := ih hfew
      exact ⟨hw.withStacks _ hw.live, hK⟩
  | @learn K w _ ih =>
      obtain ⟨hw, hK⟩ := ih hfew
      exact ⟨hw, sup_le hK hw.host⟩
  | @remember taken s K w _ hs ih =>
      obtain ⟨hw, hK⟩ := ih hfew
      exact ⟨hw.of_realms_eq rfl rfl List.suffix_rfl rfl (hs.trans hK), hK⟩

/-- Functions are confined to their realm, at every crossing; and in every reachable world,
at every step of every callback too, the realms keep to themselves: no callback at any depth
of nesting notices a probe that would show a world in which they do not. -/
theorem functions_confined (hhost : host.Honest know)
    (hprobe : ∀ w, w.Confined → probe w = w) (n : Nat) (left : Script.Stack) :
    (∀ (w : World φ σ) (r : RealmRef) (stack : Script.Stack), w.Numbered → r < w.realms.size →
      Confines ⟨dispatcher host n, r, r, stack⟩ w) ∧
    ∀ (K : Functions) (w : World φ σ), host.Roams know K w → w.realms.size < 2 ^ 32 →
      w.Confined ∧ K ≤ w.held .bounded ∧
      (∀ engine source, know.generator engine.generator ≤ K →
        (runEngine host (dispatcher host n) left engine source w).1.realms.size < 2 ^ 32 →
          runEngine host (probedDispatcher probe host n) left engine source w =
            runEngine host (dispatcher host n) left engine source w) ∧
      (∀ f arguments, f.Leads ≤ K → (∀ v ∈ arguments, v.Leads know.callback ≤ K) →
        (callFunction host (dispatcher host n) left f arguments w).1.realms.size < 2 ^ 32 →
          callFunction host (probedDispatcher probe host n) left f arguments w =
            callFunction host (dispatcher host n) left f arguments w) ∧
      (∀ r source, (execute (dispatcher host n) left r source w).1.realms.size < 2 ^ 32 →
        execute (probedDispatcher probe host n) left r source w =
          execute (dispatcher host n) left r source w) ∧
      ∀ r slot arguments, (∀ v ∈ arguments, v.Leads know.callback ≤ K) →
        (w.invoke host (services host (dispatcher host n) left) r slot
          arguments).1.realms.size < 2 ^ 32 →
          w.invokeProbed probe host (services host (probedDispatcher probe host n) left) r slot
              arguments =
            w.invoke host (services host (dispatcher host n) left) r slot arguments := by
  have A := roaming_answers hhost hprobe n
  have hquiet (w : World φ σ) (hfew : w.realms.size < 2 ^ 32) (hw : w.Sound .bounded know) :
      probe w = w := hprobe w (hw.confined hfew)
  refine ⟨fun w r stack hn hr => confines (dispatcher_grows host n) hn hr stack,
    fun K w hroams hfew => ?_⟩
  obtain ⟨hw, hK⟩ := hroams.sound hhost hfew
  refine ⟨hw.confined hfew, hK, fun engine source hengine hfinal => ?_,
    fun f arguments hf harguments hfinal => ?_, fun r source hfinal => ?_,
    fun r slot arguments harguments hfinal => ?_⟩
  · exact ((A.serves hhost left).run engine source (hengine.trans hK) hw hfinal).same
  · exact ((A.serves hhost left).call (hf.trans hK) (fun v hv => (harguments v hv).trans hK) hw
      hfinal).same
  · exact (roaming_execute A left r source hw hfinal).same
  · exact ((A.serves hhost left).invoke hhost hquiet r slot
      (fun v hv => (harguments v hv).trans hK) hw hfinal).same

end

/-- By this, nothing is known. -/
def Knowledge.none : Knowledge φ γ σ := ⟨fun _ => ⊥, fun _ => ⊥, fun _ => ⊥⟩

/-- A host whose one callback answers with a function of another backend. -/
def foreignHost : Host Unit Unit Bool where
  behave _ _ := .answer (.function 0 (.foreign "mock")) .done
  generate _ _ alarm := ⟨.entry "warner" (.callback ()) .empty, 0, alarm⟩

theorem foreignHost_honest : foreignHost.Honest .none where
  behave _ _ _ _ _ := ⟨fun _ _ h => h.elim, trivial⟩
  prepare _ _ _ := trivial
  generate _ _ _ _ _ hs := ⟨fun _ _ h => h.elim False.elim False.elim, hs⟩
  act _ _ _ _ _ _ := trivial
  outcome _ _ _ hc _ := Completion.known_result hc

open Classical in
/-- The probe that raises an alarm when a realm does not keep to itself. -/
noncomputable def leakAlarm (w : World Unit Bool) : World Unit Bool :=
  if w.Confined then w else { w with host := true }

theorem functions_confined_foreignHost :
    foreignHost.Honest .none ∧
      (runEngine foreignHost (dispatcher foreignHost 1) (Machine.stack {}) ⟨{}, ()⟩ "warner()"
        (.start false)).1.realms.size = 1 ∧
      runEngine foreignHost (probedDispatcher leakAlarm foreignHost 1) (Machine.stack {}) ⟨{}, ()⟩
          "warner()" (.start false) =
        runEngine foreignHost (dispatcher foreignHost 1) (Machine.stack {}) ⟨{}, ()⟩ "warner()"
          (.start false) := by
  have hsize : (runEngine foreignHost (dispatcher foreignHost 1) (Machine.stack {}) ⟨{}, ()⟩
      "warner()" (.start false)).1.realms.size = 1 := by decide +kernel
  have hprobe (w : World Unit Bool) (h : w.Confined) : leakAlarm w = w := if_pos h
  have hconfined := functions_confined foreignHost_honest hprobe 1 (Machine.stack {})
  have hstart := hconfined.2 ⊥ (.start false) (.start false le_rfl) (by decide)
  refine ⟨foreignHost_honest, hsize, hstart.2.2.1 ⟨{}, ()⟩ "warner()" le_rfl ?_⟩
  rw [hsize]
  decide

/-- A script makes a function that calls the host when its property is assigned. -/
def setterSource : String :=
  "var f = function () \x7b return 1; \x7d; " ++
    "Object.defineProperty(f, 'x', \x7bset: function (v) \x7b warner(); \x7d\x7d); f"

/-- The realm of that script is active. -/
def setterWorld : World Unit Bool :=
  ((foreignHost.run ⟨{}, ()⟩ setterSource (.start false)).1.enter 0).2

/-- An object that gets the function for its prototype before its property is assigned. -/
def setterValue : Value Unit :=
  .object 7 (.entry "__proto__" (.value (.function 8 (.captured 0 158)))
    (.entry "x" (.value .null) .empty))

/-- A setter that is found on the way can call the host, and then there are more warnings
than functions that are replaced; the prototype of plain objects need not be touched. -/
theorem warning_without_replacement :
    ((setterWorld.heap 0).object Script.Place.objectPrototype).properties =
        (Script.Heap.standard.object Script.Place.objectPrototype).properties ∧
      (setterValue.extract (foreignHost.crossing 0 0 (Machine.stack {})) setterWorld).2.isOk ∧
      strangers 0 setterValue.functions = [] ∧
      (setterValue.extract (foreignHost.crossing 0 0 (Machine.stack {})) setterWorld).1.warnings =
        setterWorld.warnings + 1 := by
  decide +kernel

end ScriptHost
