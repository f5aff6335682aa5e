import ScriptHost.Proofs.Boundary.Faithful

/-!
# What a new realm shows

If a realm is made, all that was to be exported into it can be read back there, whatever the
names are and at every depth, but for what was exported as `__proto__`: under this name an
assignment finds a setter, which takes an object or null for the new prototype and drops
everything else without a word.  An export that a read-only name of the global object stands
against is not dropped, but keeps the realm from being made.

`dropped_export` is such a realm: it is made, and a number that was exported is not there.
-/

namespace ScriptHost

open Script (Ground Heap Val key)

variable {φ σ : Type}

/-- What a realm exposes is a matter of the realms. -/
theorem World.Exposes.of_realms_eq {w w' : World φ σ} {r : RealmRef} {n : Namespace φ}
    (hw : w.Exposes r n) (hr : r < w.realms.size) (hrealms : w'.realms = w.realms)
    (hnext : w'.nextRealm = w.nextRealm) (hlog : w.log <:+ w'.log) : w'.Exposes r n := by
  have hheap : w'.heap r = w.heap r := by simp only [World.heap, World.realm, hrealms]
  have hkeeps : KeepsFrom r Heap.standard.size w w' :=
    ⟨.of_realms_eq hrealms hnext hlog, hr, by rw [hheap], fun _ _ _ => by rw [hheap]⟩
  refine ⟨n.keep_realised hkeeps (Nat.le_refl _) (by rw [hheap]) hw.realised, ?_, ?_⟩
  · rw [hheap]
    exact hw.otherNames
  · rw [hheap]
    exact hw.otherObjects

section Machine

variable [Machine] [LawfulMachine]

/-- A realm that is made is a new one, and exposes what was exported into it. -/
theorem createRealm_exposes {d : Dispatcher φ σ} {left : Script.Stack} {config : EngineConfig}
    {n : Namespace φ} {w : World φ σ} {r : RealmRef} (hn : w.Numbered)
    (hlive : ∀ s ∈ w.live, s < w.realms.size) (hfew : w.realms.size + 1 < 2 ^ 32)
    (hmade : (createRealm d left config n w).2 = .ok r) :
    r = w.realms.size ∧ (createRealm d left config n w).1.Exposes r n := by
  obtain ⟨rfl, w', hinstall, hworld⟩ := createRealm_installs hn hlive hfew hmade
  have hbuilds := builds_opening config n hn hfew
  have hin := hbuilds.law d () (congrArg Prod.snd hinstall)
  have hlays := hbuilds.lays d
  rw [hinstall] at hin hlays
  have hexposes := hin.exposes heap_opening hlays
  rw [hworld]
  refine ⟨rfl, hexposes.of_realms_eq ?_ rfl rfl (List.suffix_cons _ w'.log)⟩
  exact ((site_opening hn hfew).after hlays).made

/-- A realm that is made shows everything that was exported into it but what was exported as
`__proto__`. -/
theorem made_realms_expose (d : Dispatcher φ σ) (left : Script.Stack) (config : EngineConfig)
    (n : Namespace φ) {w : World φ σ} {r : RealmRef} (hn : w.Numbered)
    (hlive : ∀ s ∈ w.live, s < w.realms.size) (hfew : w.realms.size + 1 < 2 ^ 32)
    (hmade : (createRealm d left config n w).2 = .ok r) :
    (createRealm d left config n w).1.Exposes r n :=
  (createRealm_exposes hn hlive hfew hmade).2

end Machine

/-- A namespace with a number as `__proto__`, beside a callback. -/
def prototyped : Namespace Unit :=
  .entry "ns" (.nested (.entry "__proto__" (.value (.number 0 (Double.ofInt 1)))
    (.entry "kept" (.callback ()) .empty))) .empty

/-- The realm of that namespace. -/
def prototypedWorld : World Unit Unit × Except Failure RealmRef :=
  createRealm refusing (Machine.stack {}) {} prototyped (.start ())

private theorem prototypedWorld_made : prototypedWorld.2 = .ok 0 := by decide +kernel

theorem made_realms_expose_prototyped :
    prototypedWorld.2 = .ok 0 ∧ prototypedWorld.1.Exposes 0 prototyped :=
  ⟨prototypedWorld_made, made_realms_expose refusing (Machine.stack {}) {} prototyped (.start ())
    (fun s hs => absurd hs List.not_mem_nil) (by decide) prototypedWorld_made⟩

/-- The realm is made, and what a script reads as `__proto__` is no number, but an object,
which the host sees as null. -/
theorem dropped_export :
    prototypedWorld.2 = .ok 0 ∧
      (execute refusing (Machine.stack {}) 0 "ns.__proto__" prototypedWorld.1).2.toOption.map
        Value.type = some .null ∧
      (execute refusing (Machine.stack {}) 0 "typeof ns.__proto__" prototypedWorld.1).2.toOption.map
        Value.stringValue = some "object" := by
  refine ⟨prototypedWorld_made, ?_⟩
  decide +kernel

end ScriptHost
