import ScriptHost.Failure
import ScriptHost.Proofs.Config.Sections

/-!
# Reading documents

The fields of the three sections are schemas, so that sections are read in both directions.
The sections of a configuration are fields themselves, and what they spell is what their own
fields spell.  A document is then a section with blanks around it.

The reader returns a configuration for the texts that spell it, and it fails with a message for
all others.
-/

namespace ScriptHost

namespace Config

/-! ## Fields -/

def isolateEntries : List (Entry IsolateLimits) :=
  [⟨"initial_heap_bytes", IsolateLimits.initialHeap, fun s n => ⟨n, s.maxHeap⟩, readSize,
      SpellsSize⟩,
    ⟨"max_heap_bytes", IsolateLimits.maxHeap, fun s l => ⟨s.initialHeap, l⟩, readLimit,
      SpellsLimit⟩]

def runtimeEntries : List (Entry RuntimeLimits) :=
  [⟨"memory_limit", RuntimeLimits.memory, fun s l => ⟨l, s.stack, s.collector⟩, readLimit,
      SpellsLimit⟩,
    ⟨"max_stack_size", RuntimeLimits.stack, fun s l => ⟨s.memory, l, s.collector⟩, readLimit,
      SpellsLimit⟩,
    ⟨"gc_threshold", RuntimeLimits.collector, fun s l => ⟨s.memory, s.stack, l⟩, readLimit,
      SpellsLimit⟩]

def configEntries : List (Entry EngineConfig) :=
  [⟨"v8", EngineConfig.isolate, fun s l => ⟨l, s.runtime⟩,
      readSection "struct V8Config" isolateFields {}, SpellsSection isolateEntries {}⟩,
    ⟨"quickjs", EngineConfig.runtime, fun s l => ⟨s.isolate, l⟩,
      readSection "struct QuickJsConfig" runtimeFields {}, SpellsSection runtimeEntries {}⟩]

theorem isolateSchema : Schema isolateEntries where
  names := by decide
  reads := List.forall_mem_cons.mpr
    ⟨readSize_reads, List.forall_mem_singleton.mpr readLimit_reads⟩
  get_set e s x he := by
    rcases List.mem_pair.mp he with rfl | rfl <;> rfl
  get_set_ne e e' s x he he' hne := by
    rcases List.mem_pair.mp he with rfl | rfl <;> rcases List.mem_pair.mp he' with rfl | rfl <;>
      first | rfl | exact absurd rfl hne
  ext s s' h := by
    obtain ⟨hinitial, h⟩ := List.forall_mem_cons.mp h
    have hmax := List.forall_mem_singleton.mp h
    cases s
    cases s'
    exact congrArg₂ IsolateLimits.mk hinitial hmax

theorem runtimeSchema : Schema runtimeEntries where
  names := by decide
  reads := List.forall_mem_cons.mpr ⟨readLimit_reads, List.forall_mem_cons.mpr
    ⟨readLimit_reads, List.forall_mem_singleton.mpr readLimit_reads⟩⟩
  get_set e s x he := by
    simp only [runtimeEntries, List.mem_cons, List.not_mem_nil, or_false] at he
    rcases he with rfl | rfl | rfl <;> rfl
  get_set_ne e e' s x he he' hne := by
    simp only [runtimeEntries, List.mem_cons, List.not_mem_nil, or_false] at he he'
    rcases he with rfl | rfl | rfl <;> rcases he' with rfl | rfl | rfl <;>
      first | rfl | exact absurd rfl hne
  ext s s' h := by
    obtain ⟨hmemory, h⟩ := List.forall_mem_cons.mp h
    obtain ⟨hstack, h⟩ := List.forall_mem_cons.mp h
    have hcollector := List.forall_mem_singleton.mp h
    cases s
    cases s'
    cases hmemory
    exact congrArg₂ (RuntimeLimits.mk _) hstack hcollector

theorem configSchema : Schema configEntries where
  names := by decide
  reads := List.forall_mem_cons.mpr ⟨isolateSchema.reads_section _ _,
    List.forall_mem_singleton.mpr (runtimeSchema.reads_section _ _)⟩
  get_set e s x he := by
    rcases List.mem_pair.mp he with rfl | rfl <;> rfl
  get_set_ne e e' s x he he' hne := by
    rcases List.mem_pair.mp he with rfl | rfl <;> rcases List.mem_pair.mp he' with rfl | rfl <;>
      first | rfl | exact absurd rfl hne
  ext s s' h := by
    obtain ⟨hisolate, h⟩ := List.forall_mem_cons.mp h
    have hruntime := List.forall_mem_singleton.mp h
    cases s
    cases s'
    exact congrArg₂ EngineConfig.mk hisolate hruntime

/-! ## What the fields spell -/

variable {source : Bytes}

theorem spellsSection_isolate {l : IsolateLimits} :
    SpellsSection isolateEntries {} source l ↔ SpellsIsolate source l := by
  simp only [SpellsSection, Fills, isolateEntries, List.forall_mem_cons,
    List.not_mem_nil, IsEmpty.forall_iff, implies_true, and_true]
  rfl

theorem spellsSection_runtime {l : RuntimeLimits} :
    SpellsSection runtimeEntries {} source l ↔ SpellsRuntime source l := by
  simp only [SpellsSection, Fills, runtimeEntries, List.forall_mem_cons,
    List.not_mem_nil, IsEmpty.forall_iff, implies_true, and_true]
  rfl

theorem spellsSection_config {c : EngineConfig} :
    SpellsSection configEntries {} source c ↔ SpellsConfig source c := by
  have hisolate : SpellsSection isolateEntries {} = SpellsIsolate :=
    funext₂ fun _ _ => propext spellsSection_isolate
  have hruntime : SpellsSection runtimeEntries {} = SpellsRuntime :=
    funext₂ fun _ _ => propext spellsSection_runtime
  simp only [SpellsSection, Fills, configEntries, List.forall_mem_cons,
    List.not_mem_nil, IsEmpty.forall_iff, implies_true, and_true]
  rw [SpellsConfig, ← hisolate, ← hruntime]
  rfl

/-- What spells a configuration is well formed, with its unknown members. -/
theorem SpellsConfig.value {c : EngineConfig} (h : SpellsConfig source c) : Value source := by
  obtain ⟨members, hgives, -⟩ := h
  exact hgives.value

/-! ## Documents -/

/-- Blanks at the end of a document end a value. -/
theorem Blanks.ends {b : Bytes} (h : Blanks b) : Ends b :=
  fun _ hx => .inl (h _ (List.mem_of_mem_head? hx))

/-- A text is read as a configuration if it is a document that spells it, and only then. -/
theorem readDocument_iff {t : String} {c : EngineConfig} :
    readDocument t = .ok c ↔ Document (SpellsConfig · c) (bytes t) := by
  have hreads : Reads (readSection "struct EngineConfig" configFields {})
      (SpellsSection configEntries {}) := configSchema.reads_section _ _
  constructor
  · intro h
    obtain ⟨⟨s, c₁⟩, hsection, h⟩ := bind_eq_ok.mp h
    obtain ⟨b, source, hb, hrest, hspells⟩ := hreads.sound hsection
    obtain ⟨b', hb', hsplit⟩ := c₁.skipBlanks_split
    dsimp only at h
    split at h
    · rename_i hend
      cases h
      rw [hend, List.append_nil] at hsplit
      refine ⟨b, source, b', hb, hb', ?_, spellsSection_config.mp hspells⟩
      rw [List.append_assoc, ← hsplit, ← hrest]
      rfl
    · cases h
  · rintro ⟨b, source, b', hb, hb', htext, hspells⟩
    obtain ⟨c₁, hsection, hrest₁⟩ := hreads.complete (c := Cursor.ofString t) hb
      (spellsSection_config.mpr hspells) hb'.ends (by rw [← List.append_assoc, ← htext]; rfl)
    refine bind_eq_ok.mpr ⟨_, hsection, ?_⟩
    dsimp only
    rw [Cursor.skipBlanks_of_end hb' hrest₁]

end Config

open Config

namespace EngineConfig

theorem ofJson_eq_ok {t : String} {c : EngineConfig} :
    ofJson t = .ok c ↔ Document (SpellsConfig · c) (bytes t) := by
  rw [← readDocument_iff]
  unfold ofJson
  cases readDocument t with
  | ok c' => exact ⟨fun h => by cases h; rfl, fun h => by cases h; rfl⟩
  | error e => exact iff_of_false nofun nofun

/-- What is no configuration is an error with a message about the text. -/
theorem ofJson_eq_error {t : String} :
    (∃ message, ofJson t = .error (.config message)) ↔ ¬∃ c, ofJson t = .ok c := by
  unfold ofJson
  cases readDocument t with
  | ok c => exact iff_of_false nofun (not_not_intro ⟨c, rfl⟩)
  | error e => exact iff_of_true ⟨e.message, rfl⟩ nofun

end EngineConfig

/-- A text is accepted as a configuration if and only if it is one well-formed document that
spells this configuration, and every text that spells none is a configuration error. -/
theorem config_accepted_iff_spelled (t : String) :
    (∀ c, EngineConfig.ofJson t = .ok c ↔
      Document (fun source => Value source ∧ SpellsConfig source c) (bytes t)) ∧
    ((∃ message, EngineConfig.ofJson t = .error (.config message)) ↔
      ¬∃ c, Document (fun source => Value source ∧ SpellsConfig source c) (bytes t)) := by
  have hiff (c : EngineConfig) : EngineConfig.ofJson t = .ok c ↔
      Document (fun source => Value source ∧ SpellsConfig source c) (bytes t) := by
    rw [EngineConfig.ofJson_eq_ok]
    simp only [and_iff_right_of_imp SpellsConfig.value]
  refine ⟨hiff, EngineConfig.ofJson_eq_error.trans ?_⟩
  simp only [hiff]

end ScriptHost
