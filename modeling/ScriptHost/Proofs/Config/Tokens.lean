import Mathlib
import ScriptHost.Proofs.Config.Grammar

/-!
# Reading strings and numbers

A reading step takes a text off the front of what is left, and what it returns is what the
grammar says of this text.  Conversely it takes every such text, if it stands in front; for
numbers something must follow that can end them.  Lines and columns play no part in this: they
are in the cursor for the messages.

Every step is shown in both directions, one lemma each.  The loops over the bytes of a string
have fuel, which is more than there are bytes, and the inductions go over it or over the
derivation.
-/

namespace ScriptHost.Config

/-- Steps in a row succeed together. -/
theorem bind_eq_ok {ε α β : Type} {x : Except ε α} {f : α → Except ε β} {b : β} :
    x >>= f = .ok b ↔ ∃ a, x = .ok a ∧ f a = .ok b := by
  cases x with
  | error e => exact iff_of_false nofun nofun
  | ok a => exact ⟨fun h => ⟨a, rfl, h⟩, fun ⟨_, h, hb⟩ => by cases h; exact hb⟩

theorem map_eq_ok {ε α β : Type} {x : Except ε α} {f : α → β} {b : β} :
    x.map f = .ok b ↔ ∃ a, x = .ok a ∧ f a = b := by
  cases x with
  | error e => exact iff_of_false nofun nofun
  | ok a =>
      exact ⟨fun h => ⟨a, rfl, Except.ok.inj h⟩, fun ⟨_, h, hb⟩ => by cases h; exact congrArg _ hb⟩

/-! ## Bytes and cursors -/

private theorem toList_loop (bs : ByteArray) (i : Nat) (r : List UInt8) :
    ByteArray.toList.loop bs i r = r.reverse ++ bs.data.toList.drop i := by
  fun_induction ByteArray.toList.loop bs i r with
  | case1 i r h ih =>
      have hi : i < bs.data.toList.length := h
      rw [ih, List.drop_eq_getElem_cons hi, List.reverse_cons, List.append_assoc]
      have hget : bs.get! i = bs.data.toList[i] := by
        simp only [ByteArray.get!, Array.getElem_toList]
        exact getElem!_pos bs.data i h
      rw [hget]
      rfl
  | case2 i r h =>
      rw [List.drop_eq_nil_of_le (Nat.le_of_not_lt h), List.append_nil]

theorem bytes_eq_data (s : String) : bytes s = s.toByteArray.data.toList := toList_loop _ 0 []

theorem bytes_injective : Function.Injective bytes := by
  intro s t h
  rw [bytes_eq_data, bytes_eq_data] at h
  exact String.toByteArray_inj.mp (ByteArray.ext (Array.toList_inj.mp h))

/-- The bytes of a text are those of its characters. -/
theorem bytes_eq (s : String) : bytes s = s.toList.flatMap String.utf8EncodeChar := by
  rw [bytes_eq_data]
  conv_lhs => rw [← String.ofList_toList (s := s)]
  rw [String.toByteArray_ofList, List.utf8Encode, List.data_toByteArray]

theorem bytes_append (s t : String) : bytes (s ++ t) = bytes s ++ bytes t := by
  rw [bytes_eq, bytes_eq, bytes_eq, String.toList_append, List.flatMap_append]

theorem blank_iff {b : UInt8} : Cursor.isBlank b = true ↔ Blank b := by
  simp only [Cursor.isBlank, Blank, Bool.or_eq_true, beq_iff_eq, or_assoc]
  tauto

theorem digit_iff {b : UInt8} : isDigit b = true ↔ Digit b := by
  rw [isDigit, decide_eq_true_eq, Digit, UInt8.le_iff_toNat_le, UInt8.le_iff_toNat_le]
  exact Iff.rfl

namespace Cursor

variable {c : Cursor} {b : UInt8} {bs : Bytes}

theorem rest_next (h : c.rest = b :: bs) : c.next.rest = bs := by
  rw [next, h]
  dsimp only
  split <;> rfl

theorem rest_skip (c : Cursor) (n : Nat) : (c.skip n).rest = c.rest.drop n := by
  induction n generalizing c with
  | zero => rfl
  | succ n ih =>
      rw [skip, ih]
      cases hc : c.rest with
      | nil => rw [next, hc, List.drop_nil]; exact congrArg _ hc |>.trans List.drop_nil
      | cons b bs => rw [rest_next hc, List.drop_succ_cons]

private theorem rest_skipBlanksFrom (bs : Bytes) (line column : Nat) :
    (skipBlanksFrom bs line column).rest = bs.dropWhile isBlank := by
  induction bs generalizing line column with
  | nil => rfl
  | cons b bs ih =>
      rw [skipBlanksFrom, List.dropWhile_cons]
      split
      · split <;> exact ih _ _
      · rfl

/-- Blanks are taken off, and all of them. -/
theorem rest_skipBlanks (c : Cursor) : c.skipBlanks.rest = c.rest.dropWhile isBlank :=
  rest_skipBlanksFrom _ _ _

theorem skipBlanks_split (c : Cursor) :
    ∃ blanks, Blanks blanks ∧ c.rest = blanks ++ c.skipBlanks.rest := by
  refine ⟨c.rest.takeWhile isBlank, fun b hb => blank_iff.mp (List.mem_takeWhile_imp hb), ?_⟩
  rw [rest_skipBlanks, List.takeWhile_append_dropWhile]

/-- What is seen behind blanks has these blanks in front of it. -/
theorem skipBlanks_cons (h : c.skipBlanks.rest = b :: bs) :
    ∃ blanks, Blanks blanks ∧ c.rest = blanks ++ b :: c.skipBlanks.next.rest := by
  obtain ⟨blanks, hblanks, hsplit⟩ := c.skipBlanks_split
  exact ⟨blanks, hblanks, by rw [hsplit, h, rest_next h]⟩

theorem skipBlanks_of_blanks {blanks : Bytes} (hb : Blanks blanks) (hblank : ¬Blank b)
    (h : c.rest = blanks ++ b :: bs) : c.skipBlanks.rest = b :: bs := by
  rw [rest_skipBlanks, h, List.dropWhile_append_of_pos fun b hmem => blank_iff.mpr (hb b hmem),
    List.dropWhile_cons_of_neg (fun h => hblank (blank_iff.mp h))]

theorem skipBlanks_of_end {blanks : Bytes} (hb : Blanks blanks) (h : c.rest = blanks) :
    c.skipBlanks.rest = [] := by
  rw [rest_skipBlanks, h, List.dropWhile_eq_nil_iff]
  exact fun b hmem => blank_iff.mpr (hb b hmem)

theorem sees_iff {ch : Char} : c.sees ch = true ↔ ∃ bs, c.rest = ascii ch :: bs := by
  rw [sees, peek, beq_iff_eq]
  cases c.rest with
  | nil => simp
  | cons b bs => simp

end Cursor

theorem Blanks.append {a b : Bytes} (ha : Blanks a) (hb : Blanks b) : Blanks (a ++ b) :=
  fun x hx => (List.mem_append.mp hx).elim (ha x) (hb x)

theorem Blanks.nil : Blanks [] := fun _ h => nomatch h

/-! ## Strings -/

theorem hexValue_iff {b : UInt8} {n : Nat} : hexValue b = some n ↔ HexDigit b n := by
  have hself (first : Char) (h : first.toNat ≤ b.toNat) :
      UInt8.ofNat (first.toNat + (b.toNat - first.toNat)) = b := by
    rw [Nat.add_sub_of_le h, UInt8.ofNat_toNat]
  constructor
  · intro h
    simp only [hexValue] at h
    split at h
    · rename_i hrange
      cases h
      have hdigit := HexDigit.digit (n := b.toNat - '0'.toNat) (by change _ - 48 < 10; omega)
      rwa [hself '0' hrange.1] at hdigit
    split at h
    · rename_i hrange
      cases h
      have hdigit := HexDigit.lower (n := b.toNat - 'a'.toNat) (by change _ - 97 < 6; omega)
      rwa [hself 'a' hrange.1, show 10 + (b.toNat - 'a'.toNat) = b.toNat - 87 by
        change 10 + (b.toNat - 97) = _; omega] at hdigit
    split at h
    · rename_i hrange
      cases h
      have hdigit := HexDigit.upper (n := b.toNat - 'A'.toNat) (by change _ - 65 < 6; omega)
      rwa [hself 'A' hrange.1, show 10 + (b.toNat - 'A'.toNat) = b.toNat - 55 by
        change 10 + (b.toNat - 65) = _; omega] at hdigit
    · cases h
  · -- There are few digits, so this way round they are all tried.
    rintro (h | h | h)
    · exact (by decide : ∀ n < 10, hexValue (UInt8.ofNat ('0'.toNat + n)) = some n) _ h
    · exact (by decide : ∀ n < 6, hexValue (UInt8.ofNat ('a'.toNat + n)) = some (10 + n)) _ h
    · exact (by decide : ∀ n < 6, hexValue (UInt8.ofNat ('A'.toNat + n)) = some (10 + n)) _ h

theorem HexDigit.lt {b : UInt8} {n : Nat} (h : HexDigit b n) : n < 16 := by
  cases h <;> omega

theorem Hex.lt {ds : Bytes} {n : Nat} (h : Hex ds n) : n < 65536 := by
  obtain ⟨hi, hj, hk, hl⟩ := h
  have := hi.lt
  have := hj.lt
  have := hk.lt
  have := hl.lt
  omega

section Reading

variable {c c' : Cursor} {rest : Bytes}

theorem readHex_sound {n : Nat} (h : readHex c = .ok (n, c')) :
    ∃ ds, c.rest = ds ++ c'.rest ∧ Hex ds n := by
  unfold readHex at h
  split at h
  · rename_i a b d e tail hrest
    split at h
    · rename_i i j k l hi hj hk hl
      cases h
      refine ⟨[a, b, d, e], ?_, .intro (hexValue_iff.mp hi) (hexValue_iff.mp hj)
        (hexValue_iff.mp hk) (hexValue_iff.mp hl)⟩
      rw [c.rest_skip, hrest]
      rfl
    · cases h
  · cases h

theorem readHex_complete {ds : Bytes} {n : Nat} (h : Hex ds n) (hrest : c.rest = ds ++ rest) :
    ∃ c', readHex c = .ok (n, c') ∧ c'.rest = rest := by
  obtain ⟨hi, hj, hk, hl⟩ := h
  refine ⟨c.skip 4, ?_, by rw [c.rest_skip, hrest]; rfl⟩
  unfold readHex
  rw [hrest]
  dsimp only [List.cons_append]
  rw [hexValue_iff.mpr hi, hexValue_iff.mpr hj, hexValue_iff.mpr hk, hexValue_iff.mpr hl]

theorem simpleEscape_iff {b x : UInt8} :
    simpleEscape b = some x ↔ ∃ letter, b = ascii letter ∧ (letter, x) ∈ escapes := by
  constructor
  · intro h
    unfold simpleEscape at h
    repeat' split at h
    all_goals cases h
    all_goals exact ⟨_, ‹b = _›, by subst b; decide⟩
  · rintro ⟨letter, rfl, hmem⟩
    exact (by decide : ∀ p ∈ escapes, simpleEscape (ascii p.1) = some p.2) _ hmem

theorem expectByte_sound {ch : Char} (h : expectByte ch c = .ok c') :
    c.rest = ascii ch :: c'.rest := by
  unfold expectByte at h
  split at h
  · cases h
  · rename_i b tail hrest
    split at h
    · rename_i hb
      cases h
      rw [hrest, Cursor.rest_next hrest, hb]
    · cases h

theorem expectByte_complete {ch : Char} (hrest : c.rest = ascii ch :: rest) :
    ∃ c', expectByte ch c = .ok c' ∧ c'.rest = rest := by
  refine ⟨c.next, ?_, Cursor.rest_next hrest⟩
  unfold expectByte
  rw [hrest]
  exact if_pos rfl

private theorem toNat_ofNat {n : Nat} (h : n.isValidChar) : (Char.ofNat n).toNat = n := by
  rw [Char.toNat_ofNat, if_pos h]

theorem readUnicode_sound {text : Bytes} (h : readUnicode c = .ok (text, c')) :
    ∃ e, c.rest = e ++ c'.rest ∧ Escape (ascii 'u' :: e) text := by
  obtain ⟨⟨n, c₁⟩, hhex, h⟩ := bind_eq_ok.mp h
  obtain ⟨ds, hds, hn⟩ := readHex_sound hhex
  have hlt := hn.lt
  dsimp only at h
  -- No character begins with a low surrogate.
  split at h
  · cases h
  rename_i hlow
  split at h
  · cases h
    rename_i hhigh
    have hchar := toNat_ofNat (n := n) (by unfold Nat.isValidChar; omega)
    exact ⟨ds, hds, .character (hchar.symm ▸ hn)⟩
  · -- A high surrogate has to be followed by a low one.
    rename_i hhigh
    obtain ⟨c₂, hslash, h⟩ := bind_eq_ok.mp h
    obtain ⟨c₃, hletter, h⟩ := bind_eq_ok.mp h
    obtain ⟨⟨m, c₄⟩, hhex', h⟩ := bind_eq_ok.mp h
    obtain ⟨ds', hds', hm⟩ := readHex_sound hhex'
    dsimp only at h
    split at h
    · cases h
    rename_i hrange
    cases h
    have hchar := toNat_ofNat (n := (n - 0xD800) * 0x400 + (m - 0xDC00) + 0x10000)
      (by unfold Nat.isValidChar; omega)
    refine ⟨ds ++ ascii '\\' :: ascii 'u' :: ds', ?_,
      .pair hn hm (by omega) (by omega) (by omega) (by omega) (by rw [hchar]; omega)⟩
    rw [hds, expectByte_sound hslash, expectByte_sound hletter, hds', List.append_assoc]
    rfl

private theorem codePointBytes_toNat (ch : Char) :
    codePointBytes ch.toNat = bytes (String.singleton ch) := by
  rw [codePointBytes, Char.ofNat_toNat]
  rfl

theorem readUnicode_character {ds : Bytes} {ch : Char} (h : Hex ds ch.toNat)
    (hrest : c.rest = ds ++ rest) :
    ∃ c', readUnicode c = .ok (bytes (String.singleton ch), c') ∧ c'.rest = rest := by
  obtain ⟨c₁, hhex, hrest₁⟩ := readHex_complete h hrest
  have hvalid : ch.toNat.isValidChar := ch.valid
  have hlt := h.lt
  unfold Nat.isValidChar at hvalid
  refine ⟨c₁, bind_eq_ok.mpr ⟨_, hhex, ?_⟩, hrest₁⟩
  dsimp only
  rw [if_neg (by omega), if_pos (by omega), codePointBytes_toNat]

theorem readUnicode_pair {ds ds' : Bytes} {high low : Nat} {ch : Char} (h : Hex ds high)
    (h' : Hex ds' low) (hhigh : 0xD800 ≤ high) (hhigh' : high ≤ 0xDBFF) (hlow : 0xDC00 ≤ low)
    (hlow' : low ≤ 0xDFFF)
    (hch : ch.toNat = 0x10000 + (high - 0xD800) * 0x400 + (low - 0xDC00))
    (hrest : c.rest = ds ++ ascii '\\' :: ascii 'u' :: (ds' ++ rest)) :
    ∃ c', readUnicode c = .ok (bytes (String.singleton ch), c') ∧ c'.rest = rest := by
  obtain ⟨c₁, hhex, hrest₁⟩ := readHex_complete h hrest
  obtain ⟨c₂, hslash, hrest₂⟩ := expectByte_complete hrest₁
  obtain ⟨c₃, hletter, hrest₃⟩ := expectByte_complete hrest₂
  obtain ⟨c₄, hhex', hrest₄⟩ := readHex_complete h' hrest₃
  refine ⟨c₄, bind_eq_ok.mpr ⟨_, hhex, ?_⟩, hrest₄⟩
  dsimp only
  rw [if_neg (by omega), if_neg (by omega)]
  refine bind_eq_ok.mpr ⟨_, hslash, bind_eq_ok.mpr ⟨_, hletter, bind_eq_ok.mpr ⟨_, hhex', ?_⟩⟩⟩
  dsimp only
  rw [if_neg (by omega), ← codePointBytes_toNat, hch,
    show 0x10000 + (high - 0xD800) * 0x400 + (low - 0xDC00) =
      (high - 0xD800) * 0x400 + (low - 0xDC00) + 0x10000 by omega]

theorem readEscape_sound {text : Bytes} (h : readEscape c = .ok (text, c')) :
    ∃ e, c.rest = e ++ c'.rest ∧ Escape e text := by
  unfold readEscape at h
  split at h
  · cases h
  rename_i b tail hrest
  split at h
  · rename_i x hx
    cases h
    obtain ⟨letter, rfl, hmem⟩ := simpleEscape_iff.mp hx
    exact ⟨[ascii letter], by rw [hrest, Cursor.rest_next hrest]; rfl, .short hmem⟩
  split at h
  · rename_i hb
    obtain ⟨e, he, hescape⟩ := readUnicode_sound h
    rw [Cursor.rest_next hrest] at he
    exact ⟨ascii 'u' :: e, by rw [hrest, hb, he]; rfl, hescape⟩
  · cases h

private theorem simpleEscape_u : simpleEscape (ascii 'u') = none := by decide

theorem readEscape_complete {e text : Bytes} (h : Escape e text) (hrest : c.rest = e ++ rest) :
    ∃ c', readEscape c = .ok (text, c') ∧ c'.rest = rest := by
  have hunicode {bs : Bytes} (hbs : c.rest = ascii 'u' :: bs) :
      readEscape c = readUnicode c.next := by
    unfold readEscape
    rw [hbs]
    dsimp only
    rw [simpleEscape_u]
    exact if_pos rfl
  cases h with
  | @short letter b hmem =>
      refine ⟨c.next, ?_, Cursor.rest_next hrest⟩
      unfold readEscape
      rw [hrest]
      dsimp only [List.cons_append]
      rw [simpleEscape_iff.mpr ⟨letter, rfl, hmem⟩]
  | character hdigits =>
      rw [hunicode hrest]
      exact readUnicode_character hdigits (Cursor.rest_next hrest)
  | pair h h' hhigh hhigh' hlow hlow' hch =>
      rw [hunicode hrest]
      exact readUnicode_pair h h' hhigh hhigh' hlow hlow' hch
        ((Cursor.rest_next hrest).trans (List.append_assoc _ _ _))

/-- What is read of a quoted text spells it, up to the closing quote. -/
theorem readBody_sound {fuel : Nat} {text : Bytes} (h : readBody fuel c = .ok (text, c')) :
    ∃ source, c.rest = source ++ ascii '"' :: c'.rest ∧ Spelled source text := by
  induction fuel generalizing c text with
  | zero => cases h
  | succ fuel ih =>
      unfold readBody at h
      split at h
      · cases h
      rename_i b tail hrest
      split at h
      · rename_i hb
        cases h
        exact ⟨[], by rw [hrest, hb, Cursor.rest_next hrest]; rfl, .nil⟩
      rename_i hquote
      split at h
      · rename_i hb
        obtain ⟨⟨t, c₁⟩, hescape, h⟩ := bind_eq_ok.mp h
        obtain ⟨⟨more, c₂⟩, hmore, h⟩ := bind_eq_ok.mp h
        cases h
        obtain ⟨e, he, hspelled⟩ := readEscape_sound hescape
        obtain ⟨source, hsource, hrestSpelled⟩ := ih hmore
        rw [Cursor.rest_next hrest] at he
        exact ⟨ascii '\\' :: (e ++ source),
          by rw [hrest, hb, he, hsource, List.cons_append, List.append_assoc],
          .escape hspelled hrestSpelled⟩
      rename_i hslash
      split at h
      · cases h
      rename_i hcontrol
      obtain ⟨⟨more, c₁⟩, hmore, h⟩ := bind_eq_ok.mp h
      cases h
      obtain ⟨source, hsource, hspelled⟩ := ih hmore
      rw [Cursor.rest_next hrest] at hsource
      exact ⟨b :: source, by rw [hrest, hsource]; rfl,
        .plain ⟨Nat.le_of_not_lt hcontrol, hquote, hslash⟩ hspelled⟩

/-- Every spelling of a text is read as that text. -/
theorem readBody_complete {source text : Bytes} (h : Spelled source text) {fuel : Nat}
    (hfuel : source.length < fuel) (hrest : c.rest = source ++ ascii '"' :: rest) :
    ∃ c', readBody fuel c = .ok (text, c') ∧ c'.rest = rest := by
  induction h generalizing c fuel with
  | nil =>
      obtain ⟨fuel, rfl⟩ := Nat.exists_eq_succ_of_ne_zero (Nat.ne_zero_of_lt hfuel)
      refine ⟨c.next, ?_, Cursor.rest_next hrest⟩
      unfold readBody
      rw [hrest]
      exact if_pos rfl
  | @plain b source text hb hspelled ih =>
      obtain ⟨fuel, rfl⟩ := Nat.exists_eq_succ_of_ne_zero (Nat.ne_zero_of_lt hfuel)
      obtain ⟨c₁, hmore, hrest₁⟩ := ih (Nat.lt_of_succ_lt_succ hfuel) (Cursor.rest_next hrest)
      refine ⟨c₁, ?_, hrest₁⟩
      unfold readBody
      rw [hrest]
      dsimp only [List.cons_append]
      rw [if_neg hb.2.1, if_neg hb.2.2, if_neg (Nat.not_lt.mpr hb.1)]
      exact bind_eq_ok.mpr ⟨_, hmore, rfl⟩
  | @escape e t source text hescape hspelled ih =>
      obtain ⟨fuel, rfl⟩ := Nat.exists_eq_succ_of_ne_zero (Nat.ne_zero_of_lt hfuel)
      obtain ⟨c₁, hread, hrest₁⟩ := readEscape_complete hescape
        ((Cursor.rest_next hrest).trans (List.append_assoc e source (ascii '"' :: rest)))
      have hfuel' : source.length < fuel := by
        rw [List.length_cons, List.length_append] at hfuel
        omega
      obtain ⟨c₂, hmore, hrest₂⟩ := ih hfuel' hrest₁
      refine ⟨c₂, ?_, hrest₂⟩
      unfold readBody
      rw [hrest]
      dsimp only [List.cons_append]
      rw [if_neg (by decide), if_pos rfl]
      exact bind_eq_ok.mpr ⟨_, hread, bind_eq_ok.mpr ⟨_, hmore, rfl⟩⟩

/-- A string is read up to and over its closing quote. -/
theorem readString_sound {text : Bytes} (h : readString c = .ok (text, c')) :
    ∃ source, c.rest = source ++ ascii '"' :: c'.rest ∧ Spelled source text :=
  readBody_sound h

theorem readString_complete {source text : Bytes} (h : Spelled source text)
    (hrest : c.rest = source ++ ascii '"' :: rest) :
    ∃ c', readString c = .ok (text, c') ∧ c'.rest = rest := by
  refine readBody_complete h ?_ hrest
  rw [hrest, List.length_append]
  omega

/-! ### Strings that are skipped -/

theorem skipEscape_sound (h : skipEscape c = .ok c') :
    ∃ e, c.rest = e ++ c'.rest ∧
      ∀ source, Quotable source → Quotable (ascii '\\' :: (e ++ source)) := by
  unfold skipEscape at h
  split at h
  · cases h
  rename_i b tail hrest
  split at h
  · rename_i hb
    cases h
    obtain ⟨x, hx⟩ := Option.isSome_iff_exists.mp hb
    obtain ⟨letter, rfl, hmem⟩ := simpleEscape_iff.mp hx
    exact ⟨[ascii letter], by rw [hrest, Cursor.rest_next hrest]; rfl, fun _ => .short hmem⟩
  split at h
  · rename_i hb
    obtain ⟨⟨n, c₁⟩, hhex, rfl⟩ := map_eq_ok.mp h
    obtain ⟨ds, hds, hn⟩ := readHex_sound hhex
    rw [Cursor.rest_next hrest] at hds
    exact ⟨ascii 'u' :: ds, by rw [hrest, hb, hds]; rfl, fun _ => .hex hn⟩
  · cases h

/-- What is skipped of a quoted text can stand between quotes. -/
theorem skipBody_sound {fuel : Nat} (h : skipBody fuel c = .ok c') :
    ∃ source, c.rest = source ++ ascii '"' :: c'.rest ∧ Quotable source := by
  induction fuel generalizing c with
  | zero => cases h
  | succ fuel ih =>
      unfold skipBody at h
      split at h
      · cases h
      rename_i b tail hrest
      split at h
      · rename_i hb
        cases h
        exact ⟨[], by rw [hrest, hb, Cursor.rest_next hrest]; rfl, .nil⟩
      rename_i hquote
      split at h
      · rename_i hb
        obtain ⟨c₁, hescape, h⟩ := bind_eq_ok.mp h
        obtain ⟨e, he, hquotable⟩ := skipEscape_sound hescape
        obtain ⟨source, hsource, hrestQuotable⟩ := ih h
        rw [Cursor.rest_next hrest] at he
        exact ⟨ascii '\\' :: (e ++ source),
          by rw [hrest, hb, he, hsource, List.cons_append, List.append_assoc],
          hquotable source hrestQuotable⟩
      rename_i hslash
      split at h
      · cases h
      rename_i hcontrol
      obtain ⟨source, hsource, hquotable⟩ := ih h
      rw [Cursor.rest_next hrest] at hsource
      exact ⟨b :: source, by rw [hrest, hsource]; rfl,
        .plain ⟨Nat.le_of_not_lt hcontrol, hquote, hslash⟩ hquotable⟩

/-- Whatever can stand between quotes is skipped. -/
theorem skipBody_complete {source : Bytes} (h : Quotable source) {fuel : Nat}
    (hfuel : source.length < fuel) (hrest : c.rest = source ++ ascii '"' :: rest) :
    ∃ c', skipBody fuel c = .ok c' ∧ c'.rest = rest := by
  induction h generalizing c fuel with
  | nil =>
      obtain ⟨fuel, rfl⟩ := Nat.exists_eq_succ_of_ne_zero (Nat.ne_zero_of_lt hfuel)
      refine ⟨c.next, ?_, Cursor.rest_next hrest⟩
      unfold skipBody
      rw [hrest]
      exact if_pos rfl
  | @plain b source hb hquotable ih =>
      obtain ⟨fuel, rfl⟩ := Nat.exists_eq_succ_of_ne_zero (Nat.ne_zero_of_lt hfuel)
      obtain ⟨c₁, hmore, hrest₁⟩ := ih (Nat.lt_of_succ_lt_succ hfuel) (Cursor.rest_next hrest)
      refine ⟨c₁, ?_, hrest₁⟩
      unfold skipBody
      rw [hrest]
      dsimp only [List.cons_append]
      rw [if_neg hb.2.1, if_neg hb.2.2, if_neg (Nat.not_lt.mpr hb.1), hmore]
  | @short letter b source hmem hquotable ih =>
      obtain ⟨fuel, rfl⟩ := Nat.exists_eq_succ_of_ne_zero (Nat.ne_zero_of_lt hfuel)
      have hrest₁ := Cursor.rest_next hrest
      have hfuel' : source.length < fuel := by
        simp only [List.length_cons] at hfuel
        omega
      obtain ⟨c₂, hmore, hrest₂⟩ := ih hfuel' (Cursor.rest_next hrest₁)
      refine ⟨c₂, ?_, hrest₂⟩
      unfold skipBody
      rw [hrest]
      dsimp only [List.cons_append]
      rw [if_neg (by decide), if_pos rfl]
      refine bind_eq_ok.mpr ⟨c.next.next, ?_, hmore⟩
      unfold skipEscape
      rw [hrest₁]
      exact if_pos (by rw [simpleEscape_iff.mpr ⟨letter, rfl, hmem⟩]; rfl)
  | @hex ds n source hds hquotable ih =>
      obtain ⟨fuel, rfl⟩ := Nat.exists_eq_succ_of_ne_zero (Nat.ne_zero_of_lt hfuel)
      have hrest₁ := Cursor.rest_next hrest
      obtain ⟨c₁, hhex, hrest₂⟩ := readHex_complete hds
        ((Cursor.rest_next hrest₁).trans (List.append_assoc ds source (ascii '"' :: rest)))
      have hfuel' : source.length < fuel := by
        simp only [List.length_cons, List.length_append] at hfuel
        omega
      obtain ⟨c₂, hmore, hrest₃⟩ := ih hfuel' hrest₂
      refine ⟨c₂, ?_, hrest₃⟩
      unfold skipBody
      rw [hrest]
      dsimp only [List.cons_append]
      rw [if_neg (by decide), if_pos rfl]
      refine bind_eq_ok.mpr ⟨c₁, ?_, hmore⟩
      unfold skipEscape
      rw [hrest₁]
      dsimp only [List.append]
      rw [simpleEscape_u, hhex]
      rfl

theorem skipString_sound (h : skipString c = .ok c') :
    ∃ source, c.rest = source ++ ascii '"' :: c'.rest ∧ Quotable source :=
  skipBody_sound h

theorem skipString_complete {source : Bytes} (h : Quotable source)
    (hrest : c.rest = source ++ ascii '"' :: rest) :
    ∃ c', skipString c = .ok c' ∧ c'.rest = rest := by
  refine skipBody_complete h ?_ hrest
  rw [hrest, List.length_append]
  omega

end Reading

end ScriptHost.Config
