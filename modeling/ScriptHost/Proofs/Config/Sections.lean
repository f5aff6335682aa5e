import ScriptHost.Proofs.Config.Fields

/-!
# Reading sections

The members of an object, or the items of a list with their names, fill a section as the grammar
says, and they are read in both directions.  For an object the induction needs to know that a
field which was seen before is given nothing any more.
-/

namespace ScriptHost.Config

variable {c c' : Cursor} {rest : Bytes} {σ : Type}

/-! ## Between elements -/

theorem nextItem_sound {first more : Bool} (h : nextItem first c = .ok (more, c')) :
    if more then ∃ lead, Lead first lead ∧ c.rest = lead ++ c'.rest
    else ∃ blanks, Blanks blanks ∧ c.rest = blanks ++ c'.rest ∧
      ∃ tail, c'.rest = ascii ']' :: tail := by
  obtain ⟨blanks, hblanks, hsplit⟩ := c.skipBlanks_split
  unfold nextItem at h
  dsimp only at h
  split at h
  · cases h
  rename_i b tail hrest
  split at h
  · -- The list ends; its bracket is left to be read by `endList`.
    rename_i hb
    cases h
    exact ⟨blanks, hblanks, hsplit, tail, hb ▸ hrest⟩
  split at h
  · -- Nothing but blanks stands in front of the first item.
    rename_i hfirst
    cases h
    exact ⟨blanks, hfirst ▸ .first hblanks, hsplit⟩
  rename_i hfirst
  split at h
  · -- Behind a comma there has to be an item.
    rename_i hb
    obtain ⟨blanks', hblanks', hsplit'⟩ := c.skipBlanks.next.skipBlanks_split
    split at h
    · cases h
    split at h
    · cases h
    · cases h
      rw [Cursor.rest_next hrest] at hsplit'
      refine ⟨blanks ++ ascii ',' :: blanks',
        Bool.eq_false_iff.mpr hfirst ▸ .next hblanks hblanks', ?_⟩
      rw [hsplit, hrest, hb, hsplit', List.append_assoc]
      rfl
  · cases h

theorem nextItem_close (first : Bool) {blanks : Bytes} (hblanks : Blanks blanks)
    (hrest : c.rest = blanks ++ ascii ']' :: rest) :
    ∃ c', nextItem first c = .ok (false, c') ∧ c'.rest = ascii ']' :: rest := by
  have hbehind := Cursor.skipBlanks_of_blanks hblanks (by decide) hrest
  refine ⟨c.skipBlanks, ?_, hbehind⟩
  unfold nextItem
  dsimp only
  rw [hbehind]
  exact if_pos rfl

theorem nextItem_element {first : Bool} {lead : Bytes} {b : UInt8} (hlead : Lead first lead)
    (hb : Begins b) (hrest : c.rest = lead ++ b :: rest) :
    ∃ c', nextItem first c = .ok (true, c') ∧ c'.rest = b :: rest := by
  unfold nextItem
  cases hlead with
  | first hblanks =>
      have hbehind := Cursor.skipBlanks_of_blanks hblanks hb.1 hrest
      refine ⟨c.skipBlanks, ?_, hbehind⟩
      dsimp only
      rw [hbehind]
      dsimp only
      rw [if_neg hb.2.2.1, if_pos rfl]
  | next hblanks hblanks' =>
      rw [List.append_assoc] at hrest
      have hcomma := Cursor.skipBlanks_of_blanks hblanks (by decide) hrest
      have hbehind := Cursor.skipBlanks_of_blanks hblanks' hb.1 (Cursor.rest_next hcomma)
      refine ⟨c.skipBlanks.next.skipBlanks, ?_, hbehind⟩
      dsimp only
      rw [hcomma]
      dsimp only
      rw [if_neg (by decide), if_neg Bool.false_ne_true, if_pos rfl, hbehind]
      exact if_neg hb.2.2.1

theorem endList_sound (h : endList c = .ok c') :
    ∃ blanks, Blanks blanks ∧ c.rest = blanks ++ ascii ']' :: c'.rest := by
  unfold endList at h
  dsimp only at h
  split at h
  · cases h
  rename_i b tail hrest
  split at h
  · rename_i hb
    cases h
    exact Cursor.skipBlanks_cons (hb ▸ hrest)
  split at h
  · split at h <;> cases h
  · cases h

theorem endList_complete {blanks : Bytes} (hblanks : Blanks blanks)
    (hrest : c.rest = blanks ++ ascii ']' :: rest) :
    ∃ c', endList c = .ok c' ∧ c'.rest = rest := by
  have hbehind := Cursor.skipBlanks_of_blanks hblanks (by decide) hrest
  refine ⟨c.skipBlanks.next, ?_, Cursor.rest_next hbehind⟩
  unfold endList
  dsimp only
  rw [hbehind]
  exact if_pos rfl

theorem nextMember_sound {first more : Bool} (h : nextMember first c = .ok (more, c')) :
    if more then ∃ lead, Lead first lead ∧ c.rest = lead ++ ascii '"' :: c'.rest
    else ∃ blanks, Blanks blanks ∧ c.rest = blanks ++ ascii '\x7d' :: c'.next.rest := by
  unfold nextMember at h
  dsimp only at h
  split at h
  · cases h
  rename_i b tail hrest
  obtain ⟨blanks, hblanks, hsplit⟩ := Cursor.skipBlanks_cons hrest
  split at h
  · -- The object ends.
    rename_i hb
    cases h
    exact ⟨blanks, hblanks, by rw [hsplit, hb]⟩
  split at h
  · -- Nothing but blanks stands in front of the first key.
    rename_i hfirst
    split at h
    · rename_i hb
      cases h
      exact ⟨blanks, hfirst ▸ .first hblanks, by rw [hsplit, hb]⟩
    · cases h
  rename_i hfirst
  split at h
  · -- Behind a comma there has to be a key.
    rename_i hcomma
    split at h
    · cases h
    rename_i b' tail' hrest'
    obtain ⟨blanks', hblanks', hsplit'⟩ := Cursor.skipBlanks_cons hrest'
    split at h
    · rename_i hb'
      cases h
      refine ⟨blanks ++ ascii ',' :: blanks',
        Bool.eq_false_iff.mpr hfirst ▸ .next hblanks hblanks', ?_⟩
      rw [hsplit, hcomma, hsplit', hb', List.append_assoc]
      rfl
    split at h <;> cases h
  · cases h

theorem nextMember_close (first : Bool) {blanks : Bytes} (hblanks : Blanks blanks)
    (hrest : c.rest = blanks ++ ascii '\x7d' :: rest) :
    ∃ c', nextMember first c = .ok (false, c') ∧ c'.next.rest = rest := by
  have hbehind := Cursor.skipBlanks_of_blanks hblanks (by decide) hrest
  refine ⟨c.skipBlanks, ?_, Cursor.rest_next hbehind⟩
  unfold nextMember
  dsimp only
  rw [hbehind]
  exact if_pos rfl

theorem nextMember_element {first : Bool} {lead : Bytes} (hlead : Lead first lead)
    (hrest : c.rest = lead ++ ascii '"' :: rest) :
    ∃ c', nextMember first c = .ok (true, c') ∧ c'.rest = rest := by
  unfold nextMember
  cases hlead with
  | first hblanks =>
      have hbehind := Cursor.skipBlanks_of_blanks hblanks (by decide) hrest
      refine ⟨c.skipBlanks.next, ?_, Cursor.rest_next hbehind⟩
      dsimp only
      rw [hbehind]
      rfl
  | next hblanks hblanks' =>
      rw [List.append_assoc] at hrest
      have hcomma := Cursor.skipBlanks_of_blanks hblanks (by decide) hrest
      have hbehind := Cursor.skipBlanks_of_blanks hblanks' (by decide) (Cursor.rest_next hcomma)
      refine ⟨c.skipBlanks.next.skipBlanks.next, ?_, Cursor.rest_next hbehind⟩
      dsimp only
      rw [hcomma]
      dsimp only
      rw [if_neg (by decide), if_neg Bool.false_ne_true, if_pos rfl, hbehind]
      rfl

theorem readColon_sound (h : readColon c = .ok c') :
    ∃ blanks, Blanks blanks ∧ c.rest = blanks ++ ascii ':' :: c'.rest := by
  unfold readColon at h
  dsimp only at h
  split at h
  · cases h
  rename_i b tail hrest
  split at h
  · rename_i hb
    cases h
    exact Cursor.skipBlanks_cons (hb ▸ hrest)
  · cases h

theorem readColon_complete {blanks : Bytes} (hblanks : Blanks blanks)
    (hrest : c.rest = blanks ++ ascii ':' :: rest) :
    ∃ c', readColon c = .ok c' ∧ c'.rest = rest := by
  have hbehind := Cursor.skipBlanks_of_blanks hblanks (by decide) hrest
  refine ⟨c.skipBlanks.next, ?_, Cursor.rest_next hbehind⟩
  unfold readColon
  dsimp only
  rw [hbehind]
  exact if_pos rfl

namespace Schema

variable {entries : List (Entry σ)} {s s' : σ} {members : List (Bytes × Bytes)}

/-! ## Lists -/

/-- The items of a list are the values of the first fields. -/
theorem readItems_sound (S : Schema entries) {fields : List (Entry σ)}
    (hsub : ∀ e ∈ fields, e ∈ entries) (hnames : (fields.map Entry.name).Nodup) {first : Bool}
    {c₁ : Cursor} (h : readItems first (fields.map Entry.field) s c = .ok (s', c₁))
    (hend : endList c₁ = .ok c') :
    ∃ items text, c.rest = text ++ c'.rest ∧ Elements Item ']' first items text ∧
      (∀ item ∈ items, Value item) ∧ items.length ≤ fields.length ∧
      Fills entries (((fields.map Entry.name).map bytes).zip items) s s' := by
  -- Where the list ends, the fields that are left are given nothing.
  have hclose {s : σ} {c : Cursor} {fields : List (Entry σ)} {first : Bool} {blanks : Bytes}
      (hblanks : Blanks blanks) (hrest : c.rest = blanks ++ ascii ']' :: c'.rest) :
      ∃ items text, c.rest = text ++ c'.rest ∧ Elements Item ']' first items text ∧
        (∀ item ∈ items, Value item) ∧ items.length ≤ fields.length ∧
        Fills entries (((fields.map Entry.name).map bytes).zip items) s s := by
    refine ⟨[], blanks ++ [ascii ']'], by rw [hrest]; simp, .close hblanks,
      fun _ h => (nomatch h), Nat.zero_le _, ?_⟩
    rw [List.zip_nil_right]
    exact S.fills_nil.mpr rfl
  induction fields generalizing first s c with
  | nil =>
      cases h
      obtain ⟨blanks, hblanks, hrest⟩ := endList_sound hend
      exact hclose hblanks hrest
  | cons e fields ih =>
      obtain ⟨⟨more, c₂⟩, hnext, h⟩ := bind_eq_ok.mp h
      have hsound := nextItem_sound hnext
      cases more with
      | false =>
          cases h
          obtain ⟨blanks, hblanks, hrest, -⟩ := hsound
          obtain ⟨blanks', hblanks', hrest'⟩ := endList_sound hend
          exact hclose (hblanks.append hblanks') (by rw [hrest, hrest', List.append_assoc])
      | true =>
          obtain ⟨lead, hlead, hrest⟩ := hsound
          obtain ⟨⟨s₁, c₃⟩, hfield, h⟩ := bind_eq_ok.mp h
          obtain ⟨x, hread, rfl⟩ := Entry.field_read_eq_ok.mp hfield
          have he := hsub e List.mem_cons_self
          obtain ⟨blanks, source, hblanks, hrest₂, hspells⟩ := (S.reads e he).sound hread
          obtain ⟨hname, hnames'⟩ := List.nodup_cons.mp hnames
          obtain ⟨items, text, htext, helements, hvalues, hlength, hfills⟩ :=
            ih (fun e' he' => hsub e' (List.mem_cons_of_mem _ he')) hnames' h
          refine ⟨source :: items, lead ++ blanks ++ source ++ text, ?_,
            .element (hlead.after_blanks hblanks) rfl helements,
            List.forall_mem_cons.mpr ⟨(S.reads e he).value hspells, hvalues⟩,
            Nat.succ_le_succ hlength, ?_⟩
          · rw [hrest, hrest₂, htext]
            simp
          · exact (S.fills_known he).mpr ⟨given_zip_of_notMem hname items, x, hspells, hfills⟩

/-- A list is read if its items are values for the first fields. -/
theorem readItems_complete (S : Schema entries) {fields : List (Entry σ)}
    (hsub : ∀ e ∈ fields, e ∈ entries) (hnames : (fields.map Entry.name).Nodup) {first : Bool}
    {items : List Bytes} {text : Bytes} (h : Elements Item ']' first items text)
    (hlength : items.length ≤ fields.length)
    (hfills : Fills entries (((fields.map Entry.name).map bytes).zip items) s s')
    (hrest : c.rest = text ++ rest) :
    ∃ c₁ c', readItems first (fields.map Entry.field) s c = .ok (s', c₁) ∧
      endList c₁ = .ok c' ∧ c'.rest = rest := by
  induction h generalizing fields s c with
  | @close first blanks hblanks =>
      rw [List.zip_nil_right] at hfills
      obtain rfl := S.fills_nil.mp hfills
      rw [List.append_assoc] at hrest
      cases fields with
      | nil =>
          obtain ⟨c', hend, hrest'⟩ := endList_complete hblanks hrest
          exact ⟨c, c', rfl, hend, hrest'⟩
      | cons e fields =>
          obtain ⟨c₁, hnext, hrest₁⟩ := nextItem_close first hblanks hrest
          obtain ⟨c', hend, hrest'⟩ := endList_complete Blanks.nil hrest₁
          exact ⟨c₁, c', bind_eq_ok.mpr ⟨_, hnext, rfl⟩, hend, hrest'⟩
  | @element first lead source text item items hlead hsource helements ih =>
      cases hsource
      cases fields with
      | nil => exact absurd hlength (Nat.not_succ_le_zero _)
      | cons e fields =>
          have he := hsub e List.mem_cons_self
          obtain ⟨hname, hnames'⟩ := List.nodup_cons.mp hnames
          obtain ⟨-, x, hspells, hfills'⟩ := (S.fills_known he).mp hfills
          obtain ⟨b, tail, hhead, hb⟩ := ((S.reads e he).value hspells).head
          -- the item is there, since it does not begin with the closing bracket
          rw [List.append_assoc, List.append_assoc, hhead] at hrest
          obtain ⟨c₁, hnext, hrest₁⟩ := nextItem_element hlead hb hrest
          have hbehind : c₁.rest = source ++ (text ++ rest) := by
            rw [hrest₁, hhead]
            rfl
          obtain ⟨c₂, hread, hrest₂⟩ := (S.reads e he).complete Blanks.nil hspells
            (helements.ends (f := .list) rest) hbehind
          obtain ⟨c₃, c', hitems, hend, hrest'⟩ :=
            ih (fun e' he' => hsub e' (List.mem_cons_of_mem _ he')) hnames'
              (Nat.le_of_succ_le_succ hlength) hfills' hrest₂
          exact ⟨c₃, c', bind_eq_ok.mpr ⟨_, hnext, bind_eq_ok.mpr
            ⟨(e.set s x, c₂), Entry.field_read_eq_ok.mpr ⟨x, hread, rfl⟩, hitems⟩⟩, hend, hrest'⟩

/-! ## Objects -/

theorem find_eq_none {key : Bytes} :
    ((entries.map Entry.field).find? fun f => f.name.toUTF8.toList == key) = none ↔
      ∀ e ∈ entries, key ≠ bytes e.name := by
  rw [List.find?_eq_none, List.forall_mem_map]
  refine forall₂_congr fun e _ => ?_
  rw [beq_iff_eq]
  exact ne_comm

theorem find_eq_some (S : Schema entries) {key : Bytes} {field : Field σ} :
    ((entries.map Entry.field).find? fun f => f.name.toUTF8.toList == key) = some field ↔
      ∃ e ∈ entries, key = bytes e.name ∧ field = e.field := by
  have hsome {field : Field σ}
      (h : ((entries.map Entry.field).find? fun f => f.name.toUTF8.toList == key) = some field) :
      ∃ e ∈ entries, key = bytes e.name ∧ field = e.field := by
    obtain ⟨e, he, rfl⟩ := List.mem_map.mp (List.mem_of_find?_eq_some h)
    have hname : (bytes e.name == key) = true :=
      List.find?_some (p := fun f : Field σ => f.name.toUTF8.toList == key) h
    exact ⟨e, he, (beq_iff_eq.mp hname).symm, rfl⟩
  refine ⟨hsome, ?_⟩
  rintro ⟨e, he, hkey, rfl⟩
  cases hfind : (entries.map Entry.field).find? fun f => f.name.toUTF8.toList == key with
  | none => exact absurd hkey (find_eq_none.mp hfind e he)
  | some field =>
      obtain ⟨e', he', hkey', rfl⟩ := hsome hfind
      rw [S.eq_of_name he he' (bytes_injective (hkey'.symm.trans hkey))]

/-- What is read behind the quote of a key is a member, and either it is one of the fields or
its key is unknown. -/
theorem readMembers_sound (S : Schema entries) {fuel : Nat} {first : Bool} {seen : List String}
    (h : readMembers (entries.map Entry.field) fuel first seen s c = .ok (s', c')) :
    ∃ members text, c.rest = text ++ c'.rest ∧ Elements (Member Spelled) '\x7d' first members text ∧
      (∀ m ∈ members, Value m.2) ∧ (∀ e ∈ entries, e.name ∈ seen → given members e.name = []) ∧
      Fills entries members s s' := by
  induction fuel generalizing first seen s c with
  | zero => cases h
  | succ fuel ih =>
      obtain ⟨⟨more, c₁⟩, hnext, h⟩ := bind_eq_ok.mp h
      have hsound := nextMember_sound hnext
      cases more with
      | false =>
          cases h
          obtain ⟨blanks, hblanks, hrest⟩ := hsound
          exact ⟨[], blanks ++ [ascii '\x7d'], by rw [hrest]; simp, .close hblanks,
            fun _ h => (nomatch h), fun _ _ _ => rfl, S.fills_nil.mpr rfl⟩
      | true =>
          obtain ⟨lead, hlead, hrest⟩ := hsound
          obtain ⟨⟨key, c₂⟩, hstring, h⟩ := bind_eq_ok.mp h
          obtain ⟨spelling, hspelling, hspelled⟩ := readString_sound hstring
          have hmember {blanks blanks' source text : Bytes} (hblanks : Blanks blanks)
              (hblanks' : Blanks blanks')
              (hrest₂ : c₂.rest = blanks ++ ascii ':' :: (blanks' ++ (source ++ (text ++ c'.rest))))
              {members : List (Bytes × Bytes)}
              (helements : Elements (Member Spelled) '\x7d' false members text) :
              ∃ text', c.rest = text' ++ c'.rest ∧
                Elements (Member Spelled) '\x7d' first ((key, source) :: members) text' :=
            ⟨_, by rw [hrest, hspelling, hrest₂]; simp,
              .element hlead ⟨spelling, blanks, blanks', hspelled, hblanks, hblanks', rfl⟩
                helements⟩
          dsimp only [if_true] at h
          split at h
          · rename_i field hfind
            obtain ⟨e, he, rfl, rfl⟩ := S.find_eq_some.mp hfind
            split at h
            · cases h
            rename_i hunseen
            obtain ⟨c₃, hcolon, h⟩ := bind_eq_ok.mp h
            obtain ⟨⟨s₁, c₄⟩, hfield, h⟩ := bind_eq_ok.mp h
            obtain ⟨x, hread, rfl⟩ := Entry.field_read_eq_ok.mp hfield
            obtain ⟨blanks, hblanks, hrest₂⟩ := readColon_sound hcolon
            obtain ⟨blanks', source, hblanks', hrest₃, hspells⟩ := (S.reads e he).sound hread
            obtain ⟨members, text, htext, helements, hvalues, hseen, hfills⟩ := ih h
            obtain ⟨text', htext', helements'⟩ := hmember hblanks hblanks'
              (by rw [hrest₂, hrest₃, htext]) helements
            refine ⟨(bytes e.name, source) :: members, text', htext', helements',
              List.forall_mem_cons.mpr ⟨(S.reads e he).value hspells, hvalues⟩, ?_,
              (S.fills_known he).mpr ⟨hseen e he List.mem_cons_self, x, hspells, hfills⟩⟩
            -- what was seen before is another field, since this one was not
            intro e' he' hmem
            rw [given_cons_ne, hseen e' he' (List.mem_cons_of_mem _ hmem)]
            intro hname
            rw [← bytes_injective hname] at hmem
            exact hunseen (List.contains_iff_mem.mpr hmem)
          · rename_i hfind
            have hunknown := find_eq_none.mp hfind
            obtain ⟨c₃, hcolon, h⟩ := bind_eq_ok.mp h
            obtain ⟨c₄, hskip, h⟩ := bind_eq_ok.mp h
            obtain ⟨blanks, hblanks, hrest₂⟩ := readColon_sound hcolon
            obtain ⟨blanks', hblanks', hrest₃⟩ := c₃.skipBlanks_split
            obtain ⟨blanks'', source, hblanks'', hvalue, hrest₄⟩ := skipValue_sound hskip
            obtain ⟨members, text, htext, helements, hvalues, hseen, hfills⟩ := ih h
            obtain ⟨text', htext', helements'⟩ := hmember hblanks (hblanks'.append hblanks'')
              (by rw [hrest₂, hrest₃, hrest₄, htext, List.append_assoc]) helements
            refine ⟨(key, source) :: members, text', htext', helements',
              List.forall_mem_cons.mpr ⟨hvalue, hvalues⟩, fun e he hmem => ?_,
              (fills_unknown hunknown).mpr hfills⟩
            rw [given_cons_ne (hunknown e he), hseen e he hmem]

/-- Members are read that give each field once at most. -/
theorem readMembers_complete (S : Schema entries) {fuel : Nat} {first : Bool}
    {seen : List String} {text : Bytes}
    (h : Elements (Member Spelled) '\x7d' first members text) (hvalues : ∀ m ∈ members, Value m.2)
    (hseen : ∀ e ∈ entries, e.name ∈ seen → given members e.name = [])
    (hfills : Fills entries members s s') (hrest : c.rest = text ++ rest)
    (hfuel : c.rest.length < fuel) :
    ∃ c', readMembers (entries.map Entry.field) fuel first seen s c = .ok (s', c') ∧
      c'.rest = rest := by
  induction h generalizing seen s c fuel with
  | @close first blanks hblanks =>
      obtain ⟨fuel, rfl⟩ := Nat.exists_eq_succ_of_ne_zero (Nat.ne_zero_of_lt hfuel)
      obtain rfl := S.fills_nil.mp hfills
      rw [List.append_assoc] at hrest
      obtain ⟨c₁, hnext, hrest₁⟩ := nextMember_close first hblanks hrest
      exact ⟨c₁.next, bind_eq_ok.mpr ⟨_, hnext, rfl⟩, hrest₁⟩
  | @element first lead source text m members hlead hmember helements ih =>
      obtain ⟨fuel, rfl⟩ := Nat.exists_eq_succ_of_ne_zero (Nat.ne_zero_of_lt hfuel)
      obtain ⟨spelling, blanks, blanks', hspelled, hblanks, hblanks', rfl⟩ := hmember
      obtain ⟨key, source⟩ := m
      dsimp only at hrest hspelled
      obtain ⟨hvalue, hvalues'⟩ := List.forall_mem_cons.mp hvalues
      simp only [List.append_assoc, List.cons_append] at hrest
      obtain ⟨c₁, hnext, hrest₁⟩ := nextMember_element hlead hrest
      obtain ⟨c₂, hstring, hrest₂⟩ := readString_complete hspelled hrest₁
      obtain ⟨c₃, hcolon, hrest₃⟩ := readColon_complete hblanks hrest₂
      have hends : Ends (text ++ rest) := helements.ends (f := .object) rest
      -- the quote of the key is gone at least
      have hfuel' : (text ++ rest).length < fuel := by
        rw [hrest] at hfuel
        simp only [List.length_append, List.length_cons] at hfuel ⊢
        omega
      by_cases hknown : ∃ e ∈ entries, key = bytes e.name
      · obtain ⟨e, he, rfl⟩ := hknown
        obtain ⟨hgiven, x, hspells, hfills'⟩ := (S.fills_known he).mp hfills
        have hunseen : ¬seen.contains e.field.name = true := by
          intro hmem
          have hnone := hseen e he (List.contains_iff_mem.mp hmem)
          rw [given_cons_self] at hnone
          cases hnone
        obtain ⟨c₄, hread, hrest₄⟩ := (S.reads e he).complete hblanks' hspells hends hrest₃
        have hseen' : ∀ e' ∈ entries, e'.name ∈ e.name :: seen → given members e'.name = [] := by
          intro e' he' hmem
          by_cases hname : e'.name = e.name
          · rw [hname, hgiven]
          · have hnone := hseen e' he' ((List.mem_cons.mp hmem).resolve_left hname)
            rwa [given_cons_ne fun heq => hname (bytes_injective heq).symm] at hnone
        obtain ⟨c', hmembers, hrest'⟩ := ih hvalues' hseen' hfills' hrest₄ (hrest₄ ▸ hfuel')
        refine ⟨c', bind_eq_ok.mpr ⟨_, hnext, bind_eq_ok.mpr ⟨_, hstring, ?_⟩⟩, hrest'⟩
        dsimp only
        rw [S.find_eq_some.mpr ⟨e, he, rfl, rfl⟩]
        dsimp only
        rw [if_neg hunseen]
        exact bind_eq_ok.mpr ⟨_, hcolon, bind_eq_ok.mpr
          ⟨(e.set s x, c₄), Entry.field_read_eq_ok.mpr ⟨x, hread, rfl⟩, hmembers⟩⟩
      · have hunknown : ∀ e ∈ entries, key ≠ bytes e.name := fun e he heq => hknown ⟨e, he, heq⟩
        obtain ⟨b, tail, hhead, hb⟩ := hvalue.head
        have hbehind : c₃.skipBlanks.rest = source ++ (text ++ rest) := by
          dsimp only at hhead
          rw [hhead] at hrest₃ ⊢
          exact Cursor.skipBlanks_of_blanks hblanks' hb.1 hrest₃
        obtain ⟨c₄, hskip, hrest₄⟩ := skipValue_complete Blanks.nil hvalue hends hbehind
        have hseen' : ∀ e ∈ entries, e.name ∈ seen → given members e.name = [] := by
          intro e he hmem
          have hnone := hseen e he hmem
          rwa [given_cons_ne (hunknown e he)] at hnone
        obtain ⟨c', hmembers, hrest'⟩ := ih hvalues' hseen' ((fills_unknown hunknown).mp hfills)
          hrest₄ (hrest₄ ▸ hfuel')
        refine ⟨c', bind_eq_ok.mpr ⟨_, hnext, bind_eq_ok.mpr ⟨_, hstring, ?_⟩⟩, hrest'⟩
        dsimp only
        rw [find_eq_none.mpr hunknown]
        exact bind_eq_ok.mpr ⟨_, hcolon, bind_eq_ok.mpr ⟨_, hskip, hmembers⟩⟩

end Schema

/-! ## Both spellings -/

/-- What has a text can stand inside quotes. -/
theorem Spelled.quotable {source text : Bytes} (h : Spelled source text) : Quotable source := by
  induction h with
  | nil => exact .nil
  | plain hb _ ih => exact .plain hb ih
  | escape he _ ih =>
      cases he with
      | short hletter => exact .short hletter ih
      | character hdigits => exact .hex hdigits ih
      | pair hfirst hsecond =>
          rw [List.cons_append, List.append_assoc, List.cons_append, List.cons_append]
          exact .hex hfirst (.hex hsecond ih)

/-- Members whose keys have a text are members. -/
theorem Elements.rawKeys {bracket : Char} {first : Bool} {members : List (Bytes × Bytes)}
    {source : Bytes} (h : Elements (Member Spelled) bracket first members source) :
    ∃ members', Elements (Member RawKey) bracket first members' source ∧
      members'.map (·.2) = members.map (·.2) := by
  induction h with
  | close hblanks => exact ⟨[], .close hblanks, rfl⟩
  | @element _ _ _ _ m _ hlead hmember _ ih =>
      obtain ⟨key, blanks, blanks', hkey, hblanks, hblanks', rfl⟩ := hmember
      obtain ⟨members', helements, hvalues⟩ := ih
      exact ⟨(key, m.2) :: members',
        .element hlead ⟨key, blanks, blanks', ⟨hkey.quotable, rfl⟩, hblanks, hblanks', rfl⟩
          helements, congrArg (m.2 :: ·) hvalues⟩

/-- A section is a value. -/
theorem Gives.value {names : List String} {source : Bytes} {members : List (Bytes × Bytes)}
    (h : Gives names source members) : Value source := by
  cases h with
  | object hmembers hvalues =>
      obtain ⟨inner, rfl, helements⟩ := hmembers
      obtain ⟨members', helements', heq⟩ := helements.rawKeys
      have hall : ∀ source ∈ members.map (·.2), Value source := List.forall_mem_map.mpr hvalues
      exact .object ⟨inner, rfl, helements'⟩ (List.forall_mem_map.mp (heq ▸ hall))
  | list hitems hvalues _ => exact .list hitems hvalues

/-- Sections are read in both spellings. -/
theorem Schema.reads_section {entries : List (Entry σ)} (S : Schema entries) (expected : String)
    (standard : σ) :
    Reads (readSection expected (entries.map Entry.field) standard)
      (SpellsSection entries standard) where
  sound {c c' s} h := by
    obtain ⟨blanks, hblanks, hsplit⟩ := c.skipBlanks_split
    unfold readSection at h
    dsimp only at h
    split at h
    · cases h
    rename_i b tail hrest
    split at h
    · rename_i hb
      obtain ⟨⟨s₁, c₁⟩, hitems, h⟩ := bind_eq_ok.mp h
      obtain ⟨c₂, hend, heq⟩ := bind_eq_ok.mp h
      cases heq
      obtain ⟨items, text, htext, helements, hvalues, hlength, hfills⟩ :=
        S.readItems_sound (fun _ he => he) S.names hitems hend
      rw [Cursor.rest_next hrest] at htext
      refine ⟨blanks, ascii '[' :: text, hblanks, by rw [hsplit, hrest, hb, htext]; rfl, _,
        .list ⟨text, rfl, helements⟩ hvalues ?_, hfills⟩
      rwa [List.length_map]
    split at h
    · rename_i hb
      obtain ⟨members, text, htext, helements, hvalues, -, hfills⟩ := S.readMembers_sound h
      rw [Cursor.rest_next hrest] at htext
      exact ⟨blanks, ascii '\x7b' :: text, hblanks, by rw [hsplit, hrest, hb, htext]; rfl, _,
        .object ⟨text, rfl, helements⟩ hvalues, hfills⟩
    · exact absurd h wrongType_ne
  complete {c blanks source rest s} hblanks hsource hends hrest := by
    obtain ⟨members, hgives, hfills⟩ := hsource
    unfold readSection
    dsimp only
    cases hgives with
    | object hmembers hvalues =>
        obtain ⟨inner, rfl, helements⟩ := hmembers
        have hbehind := Cursor.skipBlanks_of_blanks hblanks (by decide) hrest
        have hrest₁ : c.skipBlanks.next.rest = inner ++ rest := Cursor.rest_next hbehind
        have hfuel : c.skipBlanks.next.rest.length < c.skipBlanks.rest.length + 1 := by
          rw [hrest₁, hbehind]
          exact Nat.lt_succ_of_lt (Nat.lt_succ_self _)
        have hseen : ∀ e ∈ entries, e.name ∈ [] → given members e.name = [] :=
          fun _ _ h => (nomatch h)
        obtain ⟨c', hread, hrest'⟩ := S.readMembers_complete helements hvalues hseen hfills hrest₁
          hfuel
        refine ⟨c', ?_, hrest'⟩
        rw [← hread, hbehind]
        rfl
    | list hitems hvalues hlength =>
        obtain ⟨inner, rfl, helements⟩ := hitems
        rw [List.length_map] at hlength
        have hbehind := Cursor.skipBlanks_of_blanks hblanks (by decide) hrest
        obtain ⟨c₁, c', hread, hend, hrest'⟩ := S.readItems_complete (fun _ he => he) S.names
          helements hlength hfills (Cursor.rest_next hbehind)
        refine ⟨c', ?_, hrest'⟩
        rw [hbehind]
        exact bind_eq_ok.mpr ⟨_, hread, bind_eq_ok.mpr ⟨_, hend, rfl⟩⟩
  value h := by
    obtain ⟨members, hgives, -⟩ := h
    exact hgives.value

end ScriptHost.Config
