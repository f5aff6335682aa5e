import ScriptHost.Proofs.Boundary.Builds

/-!
# A new realm

To make a realm is to add one with an untouched heap, to enter its engine, and to assign the
exports to its global object.  No engine can have been entered for it before, so the exports
go into its own heap; and as no script has touched this heap, they go there without a host
call.  So whether the realm is made does not depend on how host calls would be answered.
-/

namespace ScriptHost

open Script (Ground Heap)

variable {φ σ α : Type}

/-! ## Entering an engine -/

/-- A realm with a number of its own, above those of the live ones, has no context. -/
theorem World.Numbered.context?_eq_none {w : World φ σ} {r : RealmRef} (hn : w.Numbered)
    (hfew : w.realms.size < 2 ^ 32) (hr : r < w.realms.size) (hlive : ∀ s ∈ w.live, s < r) :
    w.context? r = none := by
  cases hc : w.context? r with
  | none => rfl
  | some context =>
      obtain ⟨hmem, hid⟩ := World.mem_live_of_context? hc
      exact absurd (hn.eq_of_idOf hfew hr hid ▸ hlive context hmem) (Nat.lt_irrefl _)

/-- Leaves the engine that was entered last. -/
def leaveEngine (a : World φ σ × Except Failure α) : World φ σ × Except Failure α :=
  ({ a.1 with live := a.1.live.tail }, a.2)

theorem World.withContext_idle {w : World φ σ} {r : RealmRef} (hidle : w.context? r = none)
    (hscript : (w.realm r).isScript = true) (left : Script.Stack)
    (f : RealmRef → Script.Stack → World φ σ → World φ σ × Except Failure α) :
    w.withContext r left f =
      leaveEngine (f r (w.realm r).stack { w with live := r :: w.live }) := by
  unfold World.withContext leaveEngine
  rw [hidle]
  dsimp only
  rw [if_pos hscript]

/-! ## Making a realm -/

section Machine

variable [Machine]

/-- A realm is added, with an untouched heap. -/
def World.withRealm (w : World φ σ) (config : EngineConfig) : World φ σ :=
  (w.addRealm scriptBackend
    (.script { Heap.standard with memory := config.runtime.memory.map UInt64.toNat })
    (Machine.stack config.runtime)).2

/-- The world in which the exports of a new realm are assigned. -/
def World.opening (w : World φ σ) (config : EngineConfig) : World φ σ :=
  { w.withRealm config with live := w.realms.size :: w.live }

section Opening

variable {w : World φ σ} {config : EngineConfig}

private theorem size_withRealm : (w.withRealm config).realms.size = w.realms.size + 1 :=
  w.size_addRealm _ _ _

private theorem realm_withRealm : (w.withRealm config).realm w.realms.size =
    ⟨w.nextRealm, scriptBackend, #[],
      .script { Heap.standard with memory := config.runtime.memory.map UInt64.toNat },
      Machine.stack config.runtime⟩ :=
  (w.realm_addRealm _ _ _ _).trans (if_pos rfl)

private theorem numbered_withRealm (hn : w.Numbered) : (w.withRealm config).Numbered :=
  hn.addRealm _ _ _

private theorem createRealm_of_suffice (d : Dispatcher φ σ) (left : Script.Stack)
    (n : Namespace φ) (hsuffice : Machine.starts config.runtime = true) :
    createRealm d left config n w =
      sequel ((w.withRealm config).withContext w.realms.size left fun context stack w' =>
        n.install ⟨d, context, w.realms.size, stack⟩ Script.Place.global w') fun w' _ =>
          (w'.record (.created (w'.idOf w.realms.size) n.size), .ok w.realms.size) := by
  unfold createRealm World.withRealm
  simp only [if_pos hsuffice, World.ref_addRealm]
  generalize World.withContext _ _ _ _ = a
  obtain ⟨w', e | u⟩ := a <;> rfl

theorem size_opening : (w.opening config).realms.size = w.realms.size + 1 := size_withRealm

theorem realm_opening : (w.opening config).realm w.realms.size =
    ⟨w.nextRealm, scriptBackend, #[],
      .script { Heap.standard with memory := config.runtime.memory.map UInt64.toNat },
      Machine.stack config.runtime⟩ :=
  realm_withRealm

theorem heap_opening : (w.opening config).heap w.realms.size =
    { Heap.standard with memory := config.runtime.memory.map UInt64.toNat } :=
  w.heap_addRealm_self _ _ _

/-- Making a realm is a matter of its exports. -/
theorem createRealm_eq (d : Dispatcher φ σ) (left : Script.Stack) (n : Namespace φ)
    (hn : w.Numbered) (hlive : ∀ s ∈ w.live, s < w.realms.size)
    (hfew : w.realms.size + 1 < 2 ^ 32) (hsuffice : Machine.starts config.runtime = true) :
    createRealm d left config n w =
      sequel (leaveEngine (n.install ⟨d, w.realms.size, w.realms.size, Machine.stack config.runtime⟩
        Script.Place.global (w.opening config))) fun w' _ =>
          (w'.record (.created (w'.idOf w.realms.size) n.size), .ok w.realms.size) := by
  have hsize : (w.withRealm config).realms.size = w.realms.size + 1 := size_withRealm
  have hrealm : (w.withRealm config).realm w.realms.size = _ := realm_withRealm
  have hnone : (w.withRealm config).context? w.realms.size = none :=
    (numbered_withRealm hn).context?_eq_none (hsize ▸ hfew) (hsize ▸ Nat.lt_succ_self _) hlive
  rw [createRealm_of_suffice d left n hsuffice,
    World.withContext_idle hnone (by rw [hrealm]; rfl), hrealm]
  rfl

theorem suffice_of_createRealm {d : Dispatcher φ σ} {left : Script.Stack} {n : Namespace φ}
    {r : RealmRef} (hmade : (createRealm d left config n w).2 = .ok r) :
    Machine.starts config.runtime = true := by
  by_contra h
  rw [createRealm, if_neg h] at hmade
  cases hmade

/-- No script has touched the heap that the exports go into. -/
theorem site_opening (hn : w.Numbered) (hfew : w.realms.size + 1 < 2 ^ 32) :
    Site Ground.untouched w.realms.size (w.opening config) :=
  ⟨size_opening ▸ Nat.lt_succ_self _, size_opening ▸ hfew,
    ⟨(numbered_withRealm hn).next, (numbered_withRealm hn).id⟩,
    heap_opening ▸ Heap.Calm.standard.withMemory (config.runtime.memory.map UInt64.toNat)⟩

/-- The exports are built there. -/
theorem builds_opening [LawfulMachine] (config : EngineConfig) (n : Namespace φ) (hn : w.Numbered)
    (hfew : w.realms.size + 1 < 2 ^ 32) :
    Builds Ground.untouched w.realms.size (Machine.evaluator (Machine.stack config.runtime))
      {Script.Place.global} (w.opening config)
      (fun w' _ => Installed w.realms.size Script.Place.global n (w.opening config) w')
      (n.largest (((w.opening config).heap w.realms.size).object
        Script.Place.global).elements.size)
      fun d => n.install ⟨d, w.realms.size, w.realms.size, Machine.stack config.runtime⟩
        Script.Place.global (w.opening config) :=
  install_builds (Machine.stack config.runtime) n (fun _ _ => trivial) (site_opening hn hfew)
    (fun _ _ => heap_opening ▸
      Heap.Pristine.standard_global (config.runtime.memory.map UInt64.toNat))
    (Nat.le_refl _)

/-- A realm that is made is a new one, and the namespace was exported into it while it was
empty. -/
theorem createRealm_installs {d : Dispatcher φ σ} {left : Script.Stack} {n : Namespace φ}
    {r : RealmRef} (hn : w.Numbered) (hlive : ∀ s ∈ w.live, s < w.realms.size)
    (hfew : w.realms.size + 1 < 2 ^ 32) (hmade : (createRealm d left config n w).2 = .ok r) :
    r = w.realms.size ∧ ∃ w', n.install ⟨d, r, r, Machine.stack config.runtime⟩ Script.Place.global
        (w.opening config) = (w', .ok ()) ∧
      (createRealm d left config n w).1 = ({ w' with live := w'.live.tail } : World φ σ).record
        (.created (w'.idOf r) n.size) := by
  have hsuffice := suffice_of_createRealm hmade
  rw [createRealm_eq d left n hn hlive hfew hsuffice] at hmade ⊢
  generalize hinstall : n.install ⟨d, w.realms.size, w.realms.size, Machine.stack config.runtime⟩
    Script.Place.global (w.opening config) = a at hmade ⊢
  obtain ⟨w', e | u⟩ := a
  · cases hmade
  · cases hmade
    exact ⟨rfl, w', hinstall, rfl⟩

end Opening

end Machine

end ScriptHost
