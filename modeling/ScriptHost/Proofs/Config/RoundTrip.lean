import ScriptHost.Proofs.Config.Documents
import ScriptHost.Proofs.Number.Digits

/-!
# Writing configurations and reading them again

That a written configuration is read again does not need a second look at the reader: every
document that spells a configuration is read as that one, so it is enough that what is written
is such a document.  There are two things to see for this.  The decimal digits of a number are
its spelling, which has no zero in front.  And an object with one member for each field of a
section spells the section, if each member spells its part.
-/

namespace ScriptHost

namespace Config

/-! ## Decimal digits -/

/-- The bytes of an ASCII text are its characters. -/
theorem bytes_of_ascii {s : String} (h : ∀ ch ∈ s.toList, ch.toNat ≤ 127) :
    bytes s = s.toList.map ascii := by
  rw [bytes_eq, ← List.flatMap_pure_eq_map]
  exact List.flatMap_congr fun ch hch => if_pos (h ch hch)

theorem toNat_ascii {ch : Char} (h : ch.toNat ≤ 127) : (ascii ch).toNat = ch.toNat := by
  rw [ascii, UInt8.toNat_ofNat']
  exact Nat.mod_eq_of_lt (Nat.lt_of_le_of_lt h (by decide))

section Digits

variable {n : Nat} {ch : Char}

theorem range_of_mem_toDigits (h : ch ∈ Nat.toDigits 10 n) :
    '0'.toNat ≤ ch.toNat ∧ ch.toNat ≤ '9'.toNat :=
  Char.isDigit_iff_toNat.mp (isDigit_toDigits n ch h)

theorem toNat_ascii_of_mem_toDigits (h : ch ∈ Nat.toDigits 10 n) :
    (ascii ch).toNat = ch.toNat :=
  toNat_ascii (Nat.le_trans (range_of_mem_toDigits h).2 (by decide))

theorem bytes_repr (n : Nat) : bytes n.repr = (Nat.toDigits 10 n).map ascii := by
  have hdigits : n.repr.toList = Nat.toDigits 10 n := Nat.toList_repr
  have hascii : ∀ ch ∈ n.repr.toList, ch.toNat ≤ 127 := by
    rw [hdigits]
    exact fun ch h => Nat.le_trans (range_of_mem_toDigits h).2 (by decide)
  rw [bytes_of_ascii hascii, hdigits]

theorem integer_toDigits (n : Nat) : Integer ((Nat.toDigits 10 n).map ascii) := by
  refine ⟨⟨List.map_eq_nil_iff.not.mpr Nat.toDigits_ne_nil, List.forall_mem_map.mpr ?_⟩, ?_⟩
  · intro ch h
    rw [Digit, UInt8.le_iff_toNat_le, UInt8.le_iff_toNat_le, toNat_ascii_of_mem_toDigits h]
    exact range_of_mem_toDigits h
  · intro h
    rw [List.head?_map, Option.map_eq_some_iff] at h
    obtain ⟨ch, hhead, hzero⟩ := h
    have hvalue : ch.toNat = '0'.toNat := by
      rw [← toNat_ascii_of_mem_toDigits (List.mem_of_mem_head? hhead), hzero]
      rfl
    have hch : ch = '0' := Char.ext (UInt32.toNat_inj.mp hvalue)
    rw [toDigits_head (hch ▸ hhead)]
    rfl

theorem decimal_toDigits (n : Nat) : decimal ((Nat.toDigits 10 n).map ascii) = n := by
  calc
    decimal ((Nat.toDigits 10 n).map ascii)
        = (Nat.toDigits 10 n).foldl (fun m ch => 10 * m + (ch.toNat - '0'.toNat)) 0 := by
      rw [decimal, List.foldl_map]
      refine List.foldl_ext _ _ _ fun m ch h => ?_
      rw [toNat_ascii_of_mem_toDigits h, Nat.mul_comm]
      rfl
    _ = n := Nat.ofDigitChars_ten_toDigits

end Digits

/-- The decimal digits of a number spell it. -/
theorem spellsSize_repr (n : UInt64) : SpellsSize (bytes n.toNat.repr) n := by
  rw [bytes_repr]
  exact ⟨integer_toDigits n.toNat, decimal_toDigits n.toNat⟩

theorem spellsLimit_limitJson (l : Option UInt64) :
    SpellsLimit (bytes (EngineConfig.limitJson l)) l := by
  cases l with
  | none => exact .null
  | some n => exact .size (spellsSize_repr n)

/-! ## Objects -/

instance : DecidablePred Plain := fun _ => inferInstanceAs (Decidable (_ ∧ _))

/-- Plain bytes spell themselves. -/
theorem spelled_of_plain {text : Bytes} (h : ∀ b ∈ text, Plain b) : Spelled text text := by
  induction text with
  | nil => exact .nil
  | cons b text ih =>
      obtain ⟨hb, htext⟩ := List.forall_mem_cons.mp h
      exact .plain hb (ih htext)

/-- A member as it is written. -/
def memberJson (m : String × String) : String := "\"" ++ m.1 ++ "\":" ++ m.2

theorem bytes_memberJson (m : String × String) :
    bytes (memberJson m) =
      ascii '"' :: (bytes m.1 ++ ascii '"' :: ([] ++ ascii ':' :: ([] ++ bytes m.2))) := by
  have hquote : bytes "\"" = [ascii '"'] := by
    rw [bytes_eq]
    decide
  have hcolon : bytes "\":" = [ascii '"', ascii ':'] := by
    rw [bytes_eq]
    decide
  rw [memberJson, bytes_append, bytes_append, bytes_append, hquote, hcolon]
  simp

/-- The texts behind the first one have a comma in front of them. -/
theorem bytes_intercalate (s : String) (texts : List String) :
    bytes (",".intercalate (s :: texts)) =
      bytes s ++ texts.flatMap fun t => ascii ',' :: bytes t := by
  have hcomma : bytes "," = [ascii ','] := by
    rw [bytes_eq]
    decide
  induction texts generalizing s with
  | nil => rw [String.intercalate_singleton, List.flatMap_nil, List.append_nil]
  | cons t texts ih =>
      rw [String.intercalate_cons_cons, bytes_append, bytes_append, ih, hcomma,
        List.flatMap_cons, List.append_assoc]
      rfl

theorem member_memberJson {m : String × String} (h : ∀ b ∈ bytes m.1, Plain b) :
    Member Spelled (Prod.map bytes bytes m) (bytes (memberJson m)) :=
  ⟨bytes m.1, [], [], spelled_of_plain h, Blanks.nil, Blanks.nil, bytes_memberJson m⟩

/-- Members written one after the other, each behind a comma, are members behind a first one. -/
theorem elements_members {members : List (String × String)}
    (h : ∀ m ∈ members, ∀ b ∈ bytes m.1, Plain b) :
    Elements (Member Spelled) '\x7d' false (members.map (Prod.map bytes bytes))
      ((members.map memberJson).flatMap (fun t => ascii ',' :: bytes t) ++ [ascii '\x7d']) := by
  induction members with
  | nil => exact .close Blanks.nil
  | cons m members ih =>
      obtain ⟨hm, hmembers⟩ := List.forall_mem_cons.mp h
      have helement := Elements.element (.next Blanks.nil Blanks.nil) (member_memberJson hm)
        (ih hmembers)
      simpa using helement

/-- An object is written as the grammar has it, if its keys are plain. -/
theorem bracketed_objectJson {members : List (String × String)}
    (h : ∀ m ∈ members, ∀ b ∈ bytes m.1, Plain b) :
    Bracketed (Member Spelled) '\x7b' '\x7d' (members.map (Prod.map bytes bytes))
      (bytes (EngineConfig.objectJson members)) := by
  have hleft : bytes "\x7b" = [ascii '\x7b'] := by
    rw [bytes_eq]
    decide
  have hright : bytes "\x7d" = [ascii '\x7d'] := by
    rw [bytes_eq]
    decide
  refine ⟨bytes (",".intercalate (members.map memberJson)) ++ [ascii '\x7d'], ?_, ?_⟩
  · change bytes ("\x7b" ++ ",".intercalate (members.map memberJson) ++ "\x7d") = _
    rw [bytes_append, bytes_append, hleft, hright]
    rfl
  -- A comma stands in front of every member but the first.
  cases members with
  | nil =>
      have hempty : bytes (",".intercalate ([].map memberJson)) = [] := by
        rw [bytes_eq]
        decide
      rw [hempty]
      exact .close Blanks.nil
  | cons m members =>
      obtain ⟨hm, hmembers⟩ := List.forall_mem_cons.mp h
      have helement := Elements.element (.first Blanks.nil) (member_memberJson hm)
        (elements_members hmembers)
      have hbytes := bytes_intercalate (memberJson m) (members.map memberJson)
      rw [← List.map_cons] at hbytes
      rw [hbytes, List.append_assoc]
      exact helement

variable {σ : Type}

/-- A member for each field fills the section that the members spell part by part. -/
theorem given_zip {entries : List (Entry σ)} (hnames : (entries.map Entry.name).Nodup)
    {items : List Bytes} {s : σ}
    (h : List.Forall₂ (fun e item => e.spells item (e.get s)) entries items) :
    ∀ e ∈ entries, ∃ item,
      given (((entries.map Entry.name).map bytes).zip items) e.name = [item] ∧
        e.spells item (e.get s) := by
  induction h with
  | nil => exact fun _ he => nomatch he
  | @cons e item entries items hspells _ ih =>
      obtain ⟨hname, hnames'⟩ := List.nodup_cons.mp hnames
      intro e' he'
      rcases List.mem_cons.mp he' with rfl | he'
      · refine ⟨item, ?_, hspells⟩
        rw [List.map_cons, List.map_cons, List.zip_cons_cons, given_cons_self,
          given_zip_of_notMem hname]
      · obtain ⟨item', hgiven, hspells'⟩ := ih hnames' e' he'
        refine ⟨item', ?_, hspells'⟩
        rw [← hgiven]
        refine given_cons_ne fun heq => hname ?_
        rw [bytes_injective heq]
        exact List.mem_map_of_mem he'

/-- An object with one member for each field, which spells its part of a section, spells the
section. -/
theorem Schema.spellsSection_objectJson {entries : List (Entry σ)} (S : Schema entries)
    (hplain : ∀ e ∈ entries, ∀ b ∈ bytes e.name, Plain b) {members : List (String × String)}
    {texts : List String} (hmembers : members = (entries.map Entry.name).zip texts) {s : σ}
    (h : List.Forall₂ (fun e text => e.spells (bytes text) (e.get s)) entries texts)
    (standard : σ) :
    SpellsSection entries standard (bytes (EngineConfig.objectJson members)) s := by
  have hitems : List.Forall₂ (fun e item => e.spells item (e.get s)) entries (texts.map bytes) :=
    List.forall₂_map_right_iff.mpr h
  have hzip : members.map (Prod.map bytes bytes) =
      ((entries.map Entry.name).map bytes).zip (texts.map bytes) := by
    rw [hmembers, List.zip_map]
  refine ⟨_, .object (bracketed_objectJson ?_) ?_, ?_⟩
  · intro m hm
    rw [hmembers] at hm
    obtain ⟨e, he, hname⟩ := List.mem_map.mp (List.of_mem_zip hm).1
    rw [← hname]
    exact hplain e he
  · rw [hzip, List.map_map, List.zip_map_left]
    refine List.forall_mem_map.mpr fun p hp => ?_
    exact (S.reads p.1 (List.of_mem_zip hp).1).value ((List.forall₂_iff_zip.mp hitems).2 hp)
  · intro e he
    rw [hzip]
    obtain ⟨item, hgiven, hspells⟩ := given_zip S.names hitems e he
    rw [hgiven]
    exact hspells

/-! ## Configurations -/

theorem plain_isolate : ∀ e ∈ isolateEntries, ∀ b ∈ bytes e.name, Plain b := by
  simp only [bytes_eq]
  decide +kernel

theorem plain_runtime : ∀ e ∈ runtimeEntries, ∀ b ∈ bytes e.name, Plain b := by
  simp only [bytes_eq]
  decide +kernel

theorem plain_config : ∀ e ∈ configEntries, ∀ b ∈ bytes e.name, Plain b := by
  simp only [bytes_eq]
  decide +kernel

theorem spellsSection_isolateJson (l : IsolateLimits) :
    SpellsSection isolateEntries {}
      (bytes (EngineConfig.objectJson
        [("initial_heap_bytes", l.initialHeap.toNat.repr),
          ("max_heap_bytes", EngineConfig.limitJson l.maxHeap)])) l := by
  have hparts : List.Forall₂ (fun e text => e.spells (bytes text) (e.get l)) isolateEntries
      [l.initialHeap.toNat.repr, EngineConfig.limitJson l.maxHeap] :=
    .cons (spellsSize_repr l.initialHeap) (.cons (spellsLimit_limitJson l.maxHeap) .nil)
  exact isolateSchema.spellsSection_objectJson plain_isolate rfl hparts {}

theorem spellsSection_runtimeJson (l : RuntimeLimits) :
    SpellsSection runtimeEntries {}
      (bytes (EngineConfig.objectJson
        [("memory_limit", EngineConfig.limitJson l.memory),
          ("max_stack_size", EngineConfig.limitJson l.stack),
          ("gc_threshold", EngineConfig.limitJson l.collector)])) l := by
  have hparts : List.Forall₂ (fun e text => e.spells (bytes text) (e.get l)) runtimeEntries
      [EngineConfig.limitJson l.memory, EngineConfig.limitJson l.stack,
        EngineConfig.limitJson l.collector] :=
    .cons (spellsLimit_limitJson l.memory) (.cons (spellsLimit_limitJson l.stack)
      (.cons (spellsLimit_limitJson l.collector) .nil))
  exact runtimeSchema.spellsSection_objectJson plain_runtime rfl hparts {}

/-- What is written spells the configuration. -/
theorem spellsConfig_json (c : EngineConfig) : SpellsConfig (bytes c.json) c := by
  have hparts : List.Forall₂ (fun e text => e.spells (bytes text) (e.get c)) configEntries
      [_, _] :=
    .cons (spellsSection_isolateJson c.isolate) (.cons (spellsSection_runtimeJson c.runtime) .nil)
  exact spellsSection_config.mp (configSchema.spellsSection_objectJson plain_config rfl hparts {})

end Config

open Config

namespace EngineConfig

/-- What was written is read again. -/
theorem ofJson_json (c : EngineConfig) : ofJson c.json = .ok c :=
  ofJson_eq_ok.mpr ⟨[], bytes c.json, [], Blanks.nil, Blanks.nil, (List.append_nil _).symm,
    spellsConfig_json c⟩

/-- The document that is written for what a document spells. -/
def normalForm (t : String) : Except Failure String := (ofJson t).map json

theorem normalForm_bind {α : Type} (t : String) (f : String → Except Failure α) :
    normalForm t >>= f = ofJson t >>= fun c => f c.json := by
  unfold normalForm
  cases ofJson t <;> rfl

end EngineConfig

/-- Every configuration is read from what is written for it, so different configurations are
written differently, and the normal form of a document says the same as the document and is its
own normal form. -/
theorem config_round_trip :
    (∀ c, EngineConfig.ofJson (EngineConfig.json c) = .ok c) ∧
    (∀ c c', EngineConfig.json c = EngineConfig.json c' ↔ c = c') ∧
    ∀ t, EngineConfig.normalForm t >>= EngineConfig.ofJson = EngineConfig.ofJson t ∧
      EngineConfig.normalForm t >>= EngineConfig.normalForm = EngineConfig.normalForm t := by
  refine ⟨EngineConfig.ofJson_json, fun c c' => ⟨fun h => ?_, congrArg _⟩, fun t => ⟨?_, ?_⟩⟩
  · have hread := EngineConfig.ofJson_json c
    rw [h, EngineConfig.ofJson_json] at hread
    exact (Except.ok.inj hread).symm
  · rw [EngineConfig.normalForm_bind]
    simp only [EngineConfig.ofJson_json]
    exact bind_pure _
  · rw [EngineConfig.normalForm_bind]
    simp only [EngineConfig.normalForm, EngineConfig.ofJson_json]
    rfl

end ScriptHost
