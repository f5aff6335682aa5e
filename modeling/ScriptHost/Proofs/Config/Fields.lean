import ScriptHost.Proofs.Config.Values

/-!
# Fields

The sections are three lists of fields for one reader, so what is shown is shown once, for every
list of fields whose values are read as they are spelled, and that change one part of the
section each: such a list is a `Schema`.

The members of a section are read one after the other, and each changes the section.  `Fills`
says of the members as a whole what becomes of the section: each part has what it is given, or
is as it was.  `Schema.fills_known` and `Schema.fills_unknown` say it for the first member and
the others behind it.
-/

namespace ScriptHost.Config

variable {c c' : Cursor} {α σ : Type}

/-- A step reads the values that spell something, behind blanks, if they are followed by
something that can end them. -/
structure Reads (read : Cursor → Except ReadError (α × Cursor)) (spells : Bytes → α → Prop) :
    Prop where
  sound {c c' : Cursor} {x : α} : read c = .ok (x, c') →
    ∃ blanks source, Blanks blanks ∧ c.rest = blanks ++ (source ++ c'.rest) ∧ spells source x
  complete {c : Cursor} {blanks source rest : Bytes} {x : α} : Blanks blanks → spells source x →
    Ends rest → c.rest = blanks ++ (source ++ rest) → ∃ c', read c = .ok (x, c') ∧ c'.rest = rest
  value {source : Bytes} {x : α} : spells source x → Value source

/-! ## Sizes and limits -/

/-- Nothing comes of a value of another type. -/
theorem wrongType_ne {expected : String} {x : α} : wrongType expected c ≠ .ok x := by
  intro h
  unfold wrongType at h
  split at h
  · cases h
  split at h
  · obtain ⟨_, -, h⟩ := bind_eq_ok.mp h
    cases h
  split at h
  · obtain ⟨_, -, h⟩ := bind_eq_ok.mp h
    cases h
  split at h
  · obtain ⟨_, -, h⟩ := bind_eq_ok.mp h
    cases h
  split at h
  · obtain ⟨_, -, h⟩ := bind_eq_ok.mp h
    cases h
  split at h
  · obtain ⟨_, -, h⟩ := bind_eq_ok.mp h
    cases h
  split at h
  · cases h
  split at h <;> cases h

theorem Integer.number {ds : Bytes} (h : Integer ds) : Number ds := by
  simpa using Number.positive h .none .none

theorem readSize_reads : Reads readSize SpellsSize where
  sound {c c' n} h := by
    obtain ⟨blanks, hblanks, hsplit⟩ := c.skipBlanks_split
    unfold readSize at h
    dsimp only at h
    split at h
    · cases h
    split at h
    · obtain ⟨⟨m, c₁⟩, hread, h⟩ := bind_eq_ok.mp h
      dsimp only at h
      split at h
      · -- Of the three kinds of numerals only a natural number is a size.
        rename_i k
        cases h
        obtain ⟨ds, hds, hinteger, hvalue, hfits⟩ := readNumeral_sound hread
        refine ⟨blanks, ds, hblanks, by rw [hsplit, hds], hinteger, ?_⟩
        rw [hvalue, UInt64.toNat_ofNat']
        exact (Nat.mod_eq_of_lt hfits).symm
      · cases h
      · cases h
    · exact absurd h wrongType_ne
  complete {c blanks source rest n} hblanks hsource hends hrest := by
    obtain ⟨hinteger, hvalue⟩ := hsource
    have hfits : decimal source < 2 ^ 64 := hvalue ▸ n.toNat_lt
    obtain ⟨b, tail, rfl, hb⟩ := hinteger.number.head
    have hbegins : Begins b := hb.elim (fun h => h ▸ by decide) begins_of_digit
    have hbehind := Cursor.skipBlanks_of_blanks hblanks hbegins.1 hrest
    obtain ⟨c₁, hread, hrest₁⟩ := readNumeral_complete hinteger hfits hends hbehind
    refine ⟨c₁, ?_, hrest₁⟩
    unfold readSize
    dsimp only
    rw [hbehind]
    dsimp only
    rw [if_pos (by simpa using hb)]
    refine bind_eq_ok.mpr ⟨_, hread, ?_⟩
    dsimp only
    rw [hvalue, UInt64.ofNat_toNat]
  value h := .number h.1.number

theorem readLimit_reads : Reads readLimit SpellsLimit where
  sound {c c' l} h := by
    obtain ⟨blanks, hblanks, hsplit⟩ := c.skipBlanks_split
    unfold readLimit at h
    dsimp only at h
    split at h
    · rename_i hsees
      obtain ⟨tail, htail⟩ := Cursor.sees_iff.mp hsees
      obtain ⟨c₁, hread, heq⟩ := map_eq_ok.mp h
      cases heq
      have hletters := readWord_sound hread
      rw [Cursor.rest_next htail] at hletters
      exact ⟨blanks, bytes "null", hblanks, by rw [hsplit, htail, hletters, bytes_null]; rfl,
        .null⟩
    · obtain ⟨⟨n, c₁⟩, hread, heq⟩ := map_eq_ok.mp h
      cases heq
      obtain ⟨blanks', source, hblanks', hsource, hsize⟩ := readSize_reads.sound hread
      exact ⟨blanks ++ blanks', source, hblanks.append hblanks',
        by rw [hsplit, hsource, List.append_assoc], .size hsize⟩
  complete {c blanks source rest l} hblanks hsource hends hrest := by
    obtain ⟨b, tail, hhead, hb⟩ : ∃ b tail, source = b :: tail ∧ Begins b := by
      cases hsource with
      | null => exact Value.null.head
      | size h => exact (readSize_reads.value h).head
    have hbehind : c.skipBlanks.rest = source ++ rest := by
      rw [hhead] at hrest ⊢
      exact Cursor.skipBlanks_of_blanks hblanks hb.1 hrest
    -- No size begins with the letter of `null`, so one letter tells the two apart.
    unfold readLimit
    cases hsource with
    | null =>
        rw [bytes_null] at hbehind
        have hsees : c.skipBlanks.sees 'n' = true := Cursor.sees_iff.mpr ⟨_, hbehind⟩
        obtain ⟨c₁, hread, hrest₁⟩ := readWord_complete (Cursor.rest_next hbehind)
        refine ⟨c₁, ?_, hrest₁⟩
        dsimp only
        rw [hsees, if_pos rfl, hread]
        rfl
    | size h =>
        have hsees : c.skipBlanks.sees 'n' = false := by
          obtain ⟨d, tail', rfl, hd⟩ := h.1.number.head
          refine Cursor.sees_false fun b hb heq => ?_
          rw [hbehind] at hb
          cases hb
          rcases hd with hd | hd
          · exact absurd (hd.symm.trans heq) (by decide)
          · rw [heq] at hd
            exact absurd hd (by decide)
        obtain ⟨c₁, hread, hrest₁⟩ := readSize_reads.complete Blanks.nil h hends hbehind
        refine ⟨c₁, ?_, hrest₁⟩
        dsimp only
        rw [hsees, if_neg Bool.false_ne_true, hread]
        rfl
  value h := by
    cases h with
    | null => exact .null
    | size h => exact readSize_reads.value h

/-! ## Fields -/

/-- A field by the part of the section that it is about. -/
structure Entry (σ : Type) where
  name : String
  {α : Type}
  get : σ → α
  set : σ → α → σ
  read : Cursor → Except ReadError (α × Cursor)
  spells : Bytes → α → Prop

/-- The field as the reader has it. -/
def Entry.field (e : Entry σ) : Field σ :=
  ⟨e.name, fun s c => (e.read c).map fun r => (e.set s r.1, r.2)⟩

theorem Entry.field_read_eq_ok {e : Entry σ} {s s' : σ} :
    e.field.read s c = .ok (s', c') ↔ ∃ x, e.read c = .ok (x, c') ∧ e.set s x = s' := by
  refine map_eq_ok.trans ⟨?_, ?_⟩
  · rintro ⟨⟨x, c₁⟩, hread, heq⟩
    cases heq
    exact ⟨x, hread, rfl⟩
  · rintro ⟨x, hread, rfl⟩
    exact ⟨(x, c'), hread, rfl⟩

/-- Fields with different names, about the different parts that a section has. -/
structure Schema (entries : List (Entry σ)) : Prop where
  names : (entries.map Entry.name).Nodup
  reads (e : Entry σ) : e ∈ entries → Reads e.read e.spells
  get_set (e : Entry σ) (s : σ) (x : e.α) : e ∈ entries → e.get (e.set s x) = x
  get_set_ne (e e' : Entry σ) (s : σ) (x : e.α) : e ∈ entries → e' ∈ entries →
    e'.name ≠ e.name → e'.get (e.set s x) = e'.get s
  ext (s s' : σ) : (∀ e ∈ entries, e.get s = e.get s') → s = s'

/-- Each part of a section has what it is given, or is as it was. -/
def Fills (entries : List (Entry σ)) (members : List (Bytes × Bytes)) (s s' : σ) : Prop :=
  ∀ e ∈ entries, FieldIs e.spells (e.get s) (given members e.name) (e.get s')

/-- What a section spells, by its fields. -/
def SpellsSection (entries : List (Entry σ)) (standard : σ) (source : Bytes) (s : σ) : Prop :=
  ∃ members, Gives (entries.map Entry.name) source members ∧ Fills entries members standard s

section Given

variable {name : String} {m : Bytes × Bytes} {members : List (Bytes × Bytes)}

theorem given_cons_self (source : Bytes) (members : List (Bytes × Bytes)) (name : String) :
    given ((bytes name, source) :: members) name = source :: given members name := by
  simp [given]

theorem given_cons_ne (h : m.1 ≠ bytes name) : given (m :: members) name = given members name := by
  simp [given, h]

/-- Names that are not listed are given nothing. -/
theorem given_zip_of_notMem {names : List String} (h : name ∉ names) (items : List Bytes) :
    given ((names.map bytes).zip items) name = [] := by
  rw [given, List.map_eq_nil_iff, List.filter_eq_nil_iff]
  rintro ⟨key, source⟩ hmem
  obtain ⟨other, hother, rfl⟩ := List.mem_map.mp (List.of_mem_zip hmem).1
  simp only [decide_eq_true_eq]
  exact fun heq => h (bytes_injective heq ▸ hother)

end Given

namespace Schema

variable {entries : List (Entry σ)} {e : Entry σ} {s s' : σ} {source : Bytes}
variable {members : List (Bytes × Bytes)}

theorem eq_of_name (S : Schema entries) {e' : Entry σ} (he : e ∈ entries) (he' : e' ∈ entries)
    (h : e'.name = e.name) : e' = e :=
  List.inj_on_of_nodup_map S.names he' he h

theorem fills_nil (S : Schema entries) : Fills entries [] s s' ↔ s = s' :=
  ⟨fun h => S.ext s s' fun e he => (h e he).symm, fun h e _ => congrArg e.get h.symm⟩

/-- A member with an unknown key changes nothing. -/
theorem fills_unknown {m : Bytes × Bytes} (h : ∀ e ∈ entries, m.1 ≠ bytes e.name) :
    Fills entries (m :: members) s s' ↔ Fills entries members s s' :=
  forall₂_congr fun e he => by rw [given_cons_ne (h e he)]

/-- A member of a field sets its part, and no later one does so again. -/
theorem fills_known (S : Schema entries) (he : e ∈ entries) :
    Fills entries ((bytes e.name, source) :: members) s s' ↔
      given members e.name = [] ∧
        ∃ x, e.spells source x ∧ Fills entries members (e.set s x) s' := by
  have hother {e' : Entry σ} (hne : e'.name ≠ e.name) :
      given ((bytes e.name, source) :: members) e'.name = given members e'.name :=
    given_cons_ne fun heq => hne (bytes_injective heq).symm
  constructor
  · intro h
    have hself := h e he
    rw [given_cons_self] at hself
    cases hgiven : given members e.name with
    | cons _ _ =>
        rw [hgiven] at hself
        exact hself.elim
    | nil =>
        rw [hgiven] at hself
        refine ⟨rfl, e.get s', hself, fun e' he' => ?_⟩
        -- The field itself is given nothing anymore; every other one is given what it was.
        by_cases hname : e'.name = e.name
        · obtain rfl := S.eq_of_name he he' hname
          rw [hgiven, S.get_set _ _ _ he]
          rfl
        · rw [S.get_set_ne e e' _ _ he he' hname, ← hother hname]
          exact h e' he'
  · rintro ⟨hgiven, x, hspells, h⟩ e' he'
    by_cases hname : e'.name = e.name
    · obtain rfl := S.eq_of_name he he' hname
      have hself := h _ he'
      rw [hgiven, S.get_set _ _ _ he] at hself
      rw [given_cons_self, hgiven, show _ = x from hself]
      exact hspells
    · have hself := h e' he'
      rw [S.get_set_ne e e' _ _ he he' hname] at hself
      rw [hother hname]
      exact hself

end Schema

end ScriptHost.Config
