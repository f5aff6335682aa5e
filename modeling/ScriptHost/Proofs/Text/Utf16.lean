import Mathlib
import ScriptHost.Text.Utf16

/-!
# Reading back the encoding of a text

A character below U+10000 is one unit, and that unit is no surrogate, because no
character has a number between U+D800 and U+DFFF.  Any other character is a pair of
surrogates that carries its number in two halves of ten bits.  So the first units of an
encoding always tell how many of them belong together, and what they stand for.
-/

namespace ScriptHost.Units

/-! ## The units of one character -/

/-- A number of sixteen bits as a unit. -/
private theorem toNat_unit {n : Nat} (h : n < 0x10000) : (UInt16.ofNat n).toNat = n := by
  rw [UInt16.toNat_ofNat']
  exact Nat.mod_eq_of_lt h

/-- No character has the number of a surrogate. -/
private theorem notSurrogate (c : Char) : c.toNat < 0xD800 ∨ 0xDFFF < c.toNat := by
  have hvalid : c.toNat.isValidChar := c.valid
  rcases hvalid with h | ⟨h, -⟩
  · exact .inl h
  · exact .inr h

private theorem toNat_le (c : Char) : c.toNat ≤ 0x10FFFF := by
  have hvalid : c.toNat.isValidChar := c.valid
  rcases hvalid with h | ⟨-, h⟩
  · omega
  · omega

/-- A unit that is no surrogate stands for itself, whatever comes behind it. -/
theorem decode_single {u : UInt16} (hhigh : isHigh u = false) (hlow : isLow u = false)
    (us : Units) : decode (u :: us) = (decode us).map (Char.ofNat u.toNat :: ·) := by
  cases us with
  | nil =>
      simp only [decode, hhigh, hlow, Bool.or_self, Bool.false_eq_true, if_false, Option.map_some]
  | cons v rest => simp only [decode, hhigh, hlow, Bool.false_eq_true, if_false]

theorem decode_pair {u v : UInt16} (hhigh : isHigh u = true) (hlow : isLow v = true)
    (us : Units) : decode (u :: v :: us) = (decode us).map (pairChar u v :: ·) := by
  simp only [decode, hhigh, hlow, if_true]

/-- The two halves of a number are put together again. -/
private theorem pairChar_halves {c : Char} (hc : 0x10000 ≤ c.toNat) :
    pairChar (UInt16.ofNat (0xD800 + (c.toNat - 0x10000) / 0x400))
      (UInt16.ofNat (0xDC00 + (c.toNat - 0x10000) % 0x400)) = c := by
  have hle := toNat_le c
  have hhigh := toNat_unit (n := 0xD800 + (c.toNat - 0x10000) / 0x400) (by omega)
  have hlow := toNat_unit (n := 0xDC00 + (c.toNat - 0x10000) % 0x400) (by omega)
  have hsum : 0x10000 + (0xD800 + (c.toNat - 0x10000) / 0x400 - 0xD800) * 0x400 +
      (0xDC00 + (c.toNat - 0x10000) % 0x400 - 0xDC00) = c.toNat := by omega
  rw [pairChar, hhigh, hlow, hsum, Char.ofNat_toNat]

/-- The units of a character are read as that character. -/
theorem decode_ofChar_append (c : Char) (us : Units) :
    decode (ofChar c ++ us) = (decode us).map (c :: ·) := by
  have hle := toNat_le c
  unfold ofChar
  split
  · rename_i hsmall
    have hunit := toNat_unit hsmall
    have hsingle := decode_single (u := UInt16.ofNat c.toNat)
      (by have := notSurrogate c; simp only [isHigh, hunit, decide_eq_false_iff_not]; omega)
      (by have := notSurrogate c; simp only [isLow, hunit, decide_eq_false_iff_not]; omega) us
    rw [hunit, Char.ofNat_toNat] at hsingle
    exact hsingle
  · rename_i hlarge
    have hpair := decode_pair
      (u := UInt16.ofNat (0xD800 + (c.toNat - 0x10000) / 0x400))
      (v := UInt16.ofNat (0xDC00 + (c.toNat - 0x10000) % 0x400))
      (by rw [isHigh, toNat_unit (by omega), decide_eq_true_eq]; omega)
      (by rw [isLow, toNat_unit (by omega), decide_eq_true_eq]; omega) us
    rw [pairChar_halves (Nat.le_of_not_lt hlarge)] at hpair
    exact hpair

/-! ## Whole texts -/

/-- Characters are read back from their units. -/
theorem decode_encode (cs : List Char) : decode (encode cs) = some cs := by
  induction cs with
  | nil => rfl
  | cons c cs ih =>
      change decode (ofChar c ++ encode cs) = _
      rw [decode_ofChar_append, ih, Option.map_some]

/-- A text is read back from its encoding. -/
@[simp] theorem toString?_ofString (s : String) : (ofString s).toString? = some s := by
  rw [toString?, ofString, decode_encode, Option.map_some, String.ofList_toList]

/-- Different texts have different encodings. -/
theorem ofString_injective : Function.Injective ofString := by
  intro s t h
  have hread := congrArg toString? h
  rw [toString?_ofString, toString?_ofString] at hread
  exact Option.some.inj hread

end ScriptHost.Units
