import ScriptHost.Proofs.Text.Utf16
import ScriptHost.Script.Pattern

/-!
# Reading strings that are not well formed

Which units of a string are unpaired surrogates is a matter of their neighbours: the first
unit of a pair is unpaired if no second one is behind it, and a second one if no first one is
in front of it.  A pattern that says so looks at the original string around each place on its
own.  A decoder goes from left to right and takes pairs out as it meets them.

The two agree, since a unit that is behind a first one and is itself a second one is never met
alone.  So replacing what the pattern matches makes a string well formed, and it then reads as
what the decoder makes of the string as it was.
-/

namespace ScriptHost.Units

open Script (Pattern Piece UnitClass)

/-! ## From left to right -/

theorem isLow_eq_false {u : UInt16} (h : isHigh u = true) : isLow u = false := by
  simp only [isHigh, isLow, decide_eq_true_eq, decide_eq_false_iff_not] at h ⊢
  omega

/-- A surrogate that makes no pair with what is behind it. -/
structure Lone (u : UInt16) (back : Units) : Prop where
  surrogate : (isHigh u || isLow u) = true
  unmatched : isHigh u = true → back.head?.any isLow = false

/-- A string is taken apart from left to right: pairs, surrogates that are in none, and other
units. -/
@[elab_as_elim]
theorem scan {motive : Units → Prop} (nil : motive [])
    (pair : ∀ u v rest, isHigh u = true → isLow v = true → motive rest → motive (u :: v :: rest))
    (lone : ∀ u rest, Lone u rest → motive rest → motive (u :: rest))
    (plain : ∀ u rest, isHigh u = false → isLow u = false → motive rest → motive (u :: rest))
    (s : Units) : motive s := by
  match s with
  | [] => exact nil
  | u :: rest =>
      have ih := scan nil pair lone plain rest
      by_cases hhigh : isHigh u = true
      · match rest with
        | [] => exact lone u [] ⟨by rw [hhigh, Bool.true_or], fun _ => rfl⟩ ih
        | v :: rest =>
            by_cases hlow : isLow v = true
            · exact pair u v rest hhigh hlow (scan nil pair lone plain rest)
            · exact lone u (v :: rest)
                ⟨by rw [hhigh, Bool.true_or], fun _ => by simpa using hlow⟩ ih
      · by_cases hlow : isLow u = true
        · exact lone u rest ⟨by rw [hlow, Bool.or_true], fun h => absurd h hhigh⟩ ih
        · exact plain u rest (by simpa using hhigh) (by simpa using hlow) ih
termination_by s.length

section Steps

variable {u v : UInt16} {rest : Units}

theorem decode_lone (hu : Lone u rest) : decode (u :: rest) = none := by
  cases rest with
  | nil => simp only [decode, hu.surrogate, if_true]
  | cons v rest =>
      by_cases hhigh : isHigh u = true
      · have hv : isLow v = false := hu.unmatched hhigh
        simp only [decode, hhigh, hv, if_true, Bool.false_eq_true, if_false]
      · have hlow : isLow u = true := by simpa [hhigh] using hu.surrogate
        simp only [decode, if_neg hhigh, hlow, if_true]

theorem decodeLossy_pair (hu : isHigh u = true) (hv : isLow v = true) :
    decodeLossy (u :: v :: rest) = pairChar u v :: decodeLossy rest := by
  simp only [decodeLossy, hu, hv, if_true]

theorem decodeLossy_lone (hu : Lone u rest) :
    decodeLossy (u :: rest) = replacement :: decodeLossy rest := by
  cases rest with
  | nil => simp only [decodeLossy, hu.surrogate, if_true]
  | cons v rest =>
      by_cases hhigh : isHigh u = true
      · have hv : isLow v = false := hu.unmatched hhigh
        simp only [decodeLossy, hhigh, hv, if_true, Bool.false_eq_true, if_false]
      · have hlow : isLow u = true := by simpa [hhigh] using hu.surrogate
        simp only [decodeLossy, if_neg hhigh, hlow, if_true]

theorem decodeLossy_plain (hhigh : isHigh u = false) (hlow : isLow u = false) :
    decodeLossy (u :: rest) = Char.ofNat u.toNat :: decodeLossy rest := by
  cases rest with
  | nil => simp only [decodeLossy, hhigh, hlow, Bool.or_self, Bool.false_eq_true, if_false]
  | cons v rest => simp only [decodeLossy, hhigh, hlow, Bool.false_eq_true, if_false]

end Steps

/-! ## Around each place -/

/-- The unit in front of a place; the one in front of the whole string is given. -/
def unitBefore (before : Option UInt16) (s : Units) : Nat → Option UInt16
  | 0 => before
  | i + 1 => s[i]?

/-- Whether the unit at a place is half of a pair without the other half. -/
def unpairedBehind (before : Option UInt16) (s : Units) (i : Nat) : Bool :=
  (s[i]?.any isHigh && !s[i + 1]?.any isLow) ||
    (!(unitBefore before s i).any isHigh && s[i]?.any isLow)

/-- Whether there is an unpaired surrogate at a place of a string. -/
def unpaired (s : Units) (i : Nat) : Bool := unpairedBehind none s i

/-- The unit of the replacement character. -/
def replacementUnit : UInt16 := 0xFFFD

/-- A string with the replacement character in every place of an unpaired surrogate; the unit
in front of the whole string is given. -/
def repairedBehind (before : Option UInt16) (s : Units) : Units :=
  s.mapIdx fun i u => if unpairedBehind before s i then replacementUnit else u

/-- A string with the replacement character in every place of an unpaired surrogate. -/
def repaired (s : Units) : Units := s.repairedBehind none

theorem unpairedBehind_succ (before : Option UInt16) (u : UInt16) (rest : Units) (i : Nat) :
    unpairedBehind before (u :: rest) (i + 1) = unpairedBehind (some u) rest i := by
  cases i <;> rfl

/-- A repaired string starts with its first unit or the replacement character. -/
theorem repairedBehind_cons (before : Option UInt16) (u : UInt16) (rest : Units) :
    repairedBehind before (u :: rest) =
      (if unpairedBehind before (u :: rest) 0 then replacementUnit else u) ::
        repairedBehind (some u) rest := by
  simp only [repairedBehind, List.mapIdx_cons, unpairedBehind_succ]

theorem ofChar_replacement : ofChar replacement = [replacementUnit] := by
  decide

section Places

variable {u v : UInt16} {rest : Units} (before : Option UInt16)

/-- The two halves of a pair see each other. -/
theorem repairedBehind_pair (hu : isHigh u = true) (hv : isLow v = true) :
    repairedBehind before (u :: v :: rest) = u :: v :: repairedBehind (some v) rest := by
  have hfirst : unpairedBehind before (u :: v :: rest) 0 = false := by
    simp [unpairedBehind, hv, isLow_eq_false hu]
  have hhigh : isHigh v = false := by
    by_contra hv'
    rw [isLow_eq_false (Bool.eq_true_of_not_eq_false hv')] at hv
    cases hv
  have hsecond : unpairedBehind (some u) (v :: rest) 0 = false := by
    simp [unpairedBehind, unitBefore, hu, hhigh]
  simp only [repairedBehind_cons, hfirst, hsecond, Bool.false_eq_true, if_false]

/-- A surrogate that is in no pair is replaced.  A low one is in none unless the unit in front
of it is a high one. -/
theorem repairedBehind_lone (hu : Lone u rest)
    (hbefore : before.any isHigh = true → isLow u = false) :
    repairedBehind before (u :: rest) = replacementUnit :: repairedBehind (some u) rest := by
  have hfirst : unpairedBehind before (u :: rest) 0 = true := by
    -- A high unit looks for its other half behind it, a low one in front.
    by_cases hhigh : isHigh u = true
    · have hback := hu.unmatched hhigh
      rw [List.head?_eq_getElem?] at hback
      simp [unpairedBehind, hhigh, hback]
    · have hlow : isLow u = true := by simpa [hhigh] using hu.surrogate
      have hfront : before.any isHigh = false := by
        by_contra hfront
        rw [hbefore (Bool.eq_true_of_not_eq_false hfront)] at hlow
        cases hlow
      simp [unpairedBehind, unitBefore, hlow, hfront]
  rw [repairedBehind_cons, hfirst, if_pos rfl]

theorem repairedBehind_plain (hhigh : isHigh u = false) (hlow : isLow u = false) :
    repairedBehind before (u :: rest) = u :: repairedBehind (some u) rest := by
  have hfirst : unpairedBehind before (u :: rest) 0 = false := by
    simp [unpairedBehind, hhigh, hlow]
  simp only [repairedBehind_cons, hfirst, Bool.false_eq_true, if_false]

end Places

/-! ## The pattern -/

/-- The first units of pairs. -/
def highUnits : UnitClass := ⟨[(0xD800, 0xDBFF)], false⟩

/-- The second units of pairs. -/
def lowUnits : UnitClass := ⟨[(0xDC00, 0xDFFF)], false⟩

/-- A first unit with no second one behind it, or a second one with no first one in front. -/
def unpairedPattern : Pattern :=
  .either (.seq (.unit highUnits) (.look true false (.unit lowUnits)))
    (.seq (.look false false (.unit highUnits)) (.unit lowUnits))

theorem accepts_highUnits : highUnits.accepts = isHigh := by
  funext u
  simp [UnitClass.accepts, highUnits, isHigh, UInt16.le_iff_toNat_le]

theorem accepts_lowUnits : lowUnits.accepts = isLow := by
  funext u
  simp [UnitClass.accepts, lowUnits, isLow, UInt16.le_iff_toNat_le]

/-- Looking for a unit of some kind behind a place looks at the next one. -/
theorem isEmpty_ends_ahead (c : UnitClass) (front back : Units) :
    (Pattern.ends (.unit c) true ⟨front, back⟩).isEmpty = !back.head?.any c.accepts := by
  cases back with
  | nil => rfl
  | cons u back => by_cases hu : c.accepts u = true <;> simp [Pattern.ends, hu]

/-- Looking for a unit of some kind in front of a place looks at the last one. -/
theorem isEmpty_ends_behind (c : UnitClass) (front back : Units) :
    (Pattern.ends (.unit c) false ⟨front, back⟩).isEmpty = !front.head?.any c.accepts := by
  cases front with
  | nil => rfl
  | cons u front => by_cases hu : c.accepts u = true <;> simp [Pattern.ends, hu]

/-- The pattern matches one unit, and does so where there is an unpaired surrogate. -/
theorem length?_unpairedPattern (front back : Units) (u : UInt16) :
    unpairedPattern.length? front (u :: back) =
      if unpairedBehind front.head? (u :: back) 0 then some 1 else none := by
  have hhigh : Pattern.ends (.seq (.unit highUnits) (.look true false (.unit lowUnits))) true
      ⟨front, u :: back⟩ =
        if isHigh u && !back.head?.any isLow then [⟨u :: front, back⟩] else [] := by
    rw [Pattern.ends, Pattern.ends, accepts_highUnits]
    by_cases hu : isHigh u = true
    · rw [if_pos hu, List.flatMap_cons, List.flatMap_nil, List.append_nil, Pattern.ends,
        isEmpty_ends_ahead, accepts_lowUnits, hu, Bool.true_and]
      cases back.head?.any isLow <;> rfl
    · simp [hu]
  have hlow : Pattern.ends (.seq (.look false false (.unit highUnits)) (.unit lowUnits)) true
      ⟨front, u :: back⟩ =
        if !front.head?.any isHigh && isLow u then [⟨u :: front, back⟩] else [] := by
    rw [Pattern.ends, Pattern.ends, isEmpty_ends_behind, accepts_highUnits]
    cases front.head?.any isHigh with
    | true => rfl
    | false => simp [Pattern.ends, accepts_lowUnits]
  have hat : unpairedBehind front.head? (u :: back) 0 =
      (isHigh u && !back.head?.any isLow || !front.head?.any isHigh && isLow u) := by
    simp [unpairedBehind, unitBefore, List.head?_eq_getElem?]
  rw [Pattern.length?, unpairedPattern, Pattern.ends, hhigh, hlow, hat]
  cases isHigh u && !back.head?.any isLow <;>
    cases !front.head?.any isHigh && isLow u <;> simp

/-- Replacing all matches of the pattern repairs a string. -/
theorem replaceAll_unpairedPattern (s : Units) :
    unpairedPattern.replaceAll [replacementUnit] s = s.repaired := by
  suffices hfrom : ∀ front, Piece.joined (fun _ _ _ => [replacementUnit])
      (unpairedPattern.piecesFrom front 0 s) = s.repairedBehind front.head? from hfrom []
  induction s with
  | nil =>
      intro front
      have hnone : unpairedPattern.length? front [] = none := by
        cases front with
        | nil => rfl
        | cons v front => by_cases hv : highUnits.accepts v = true <;>
            simp [Pattern.length?, unpairedPattern, Pattern.ends, hv]
      simp only [Pattern.piecesFrom, hnone]
      rfl
  | cons u back ih =>
      intro front
      have hrest : Piece.joined (fun _ _ _ => [replacementUnit])
          (unpairedPattern.piecesFrom (u :: front) 0 back) = repairedBehind (some u) back :=
        ih (u :: front)
      rw [repairedBehind_cons, ← hrest]
      simp only [Pattern.piecesFrom, length?_unpairedPattern]
      cases unpairedBehind front.head? (u :: back) 0 <;> rfl

@[simp] theorem length_repaired (s : Units) : s.repaired.length = s.length :=
  List.length_mapIdx

theorem getElem?_repaired (s : Units) (i : Nat) :
    s.repaired[i]? = s[i]?.map fun u => if unpaired s i then replacementUnit else u :=
  List.getElem?_mapIdx

/-- Only surrogates are replaced, and the replacement character is none. -/
theorem unpaired_of_repaired_eq {s : Units} (h : s.repaired = s) (i : Nat) :
    s.unpaired i = false := by
  by_contra hi
  have hunpaired := Bool.eq_true_of_not_eq_false hi
  have hat := congrArg (fun t : Units => t[i]?) h
  simp only [getElem?_repaired] at hat
  cases hu : s[i]? with
  | none => simp [unpaired, unpairedBehind, hu] at hunpaired
  | some u =>
      rw [hu, Option.map_some, if_pos hunpaired] at hat
      have hreplacement : replacementUnit = u := Option.some.inj hat
      subst hreplacement
      have hnone : isHigh replacementUnit = false ∧ isLow replacementUnit = false := by decide
      simp [unpaired, unpairedBehind, hu, hnone] at hunpaired

theorem repaired_eq_of_unpaired {s : Units} (h : ∀ i, s.unpaired i = false) : s.repaired = s := by
  refine List.ext_getElem? fun i => ?_
  rw [getElem?_repaired, h i]
  simp

/-! ## What becomes of a repaired string -/

/-- A repaired string is well formed, and reads as the decoder reads the original. -/
theorem decode_repaired (s : Units) : decode s.repaired = some (decodeLossy s) := by
  -- What is in front of the rest of the string matters only if the rest starts with a second
  -- unit of a pair, and then that unit was taken with the first.
  suffices hfrom : ∀ before : Option UInt16,
      (before.any isHigh = true → s.head?.any isLow = false) →
        decode (s.repairedBehind before) = some (decodeLossy s) from
    hfrom none fun h => by cases h
  induction s using scan with
  | nil => exact fun _ _ => rfl
  | pair u v rest hu hv ih =>
      intro before _
      rw [repairedBehind_pair before hu hv, decodeLossy_pair hu hv, decode_pair hu hv,
        ih (some v) fun hv' => ?_, Option.map_some]
      rw [isLow_eq_false hv'] at hv
      cases hv
  | lone u rest hu ih =>
      intro before hbefore
      rw [repairedBehind_lone before hu hbefore, decodeLossy_lone hu, ← List.singleton_append,
        ← ofChar_replacement, decode_ofChar_append, ih (some u) hu.unmatched, Option.map_some]
  | plain u rest hhigh hlow ih =>
      intro before _
      rw [repairedBehind_plain before hhigh hlow, decodeLossy_plain hhigh hlow,
        decode_single hhigh hlow, ih (some u) fun hu => ?_, Option.map_some]
      rw [Option.any_some, hhigh] at hu
      cases hu

private theorem ofChar_pairChar {u v : UInt16} (hu : isHigh u = true) (hv : isLow v = true) :
    ofChar (pairChar u v) = [u, v] := by
  simp only [isHigh, isLow, decide_eq_true_eq] at hu hv
  have hvalid : (0x10000 + (u.toNat - 0xD800) * 0x400 + (v.toNat - 0xDC00)).isValidChar := by
    refine .inr ⟨by omega, by omega⟩
  have hnumber : (pairChar u v).toNat =
      0x10000 + (u.toNat - 0xD800) * 0x400 + (v.toNat - 0xDC00) := by
    rw [pairChar, Char.toNat_ofNat, if_pos hvalid]
  unfold ofChar
  rw [hnumber, if_neg (by omega)]
  refine congrArg₂ (fun a b => [a, b]) ?_ ?_
  · rw [show 0xD800 +
      (0x10000 + (u.toNat - 0xD800) * 0x400 + (v.toNat - 0xDC00) - 0x10000) / 0x400 =
        u.toNat by omega, UInt16.ofNat_toNat]
  · rw [show 0xDC00 +
      (0x10000 + (u.toNat - 0xD800) * 0x400 + (v.toNat - 0xDC00) - 0x10000) % 0x400 =
        v.toNat by omega, UInt16.ofNat_toNat]

private theorem ofChar_unit {u : UInt16} (hhigh : isHigh u = false) (hlow : isLow u = false) :
    ofChar (Char.ofNat u.toNat) = [u] := by
  simp only [isHigh, isLow, decide_eq_false_iff_not] at hhigh hlow
  have hbound : u.toNat < 0x10000 := u.toNat_lt
  have hvalid : u.toNat.isValidChar := by
    by_cases hsmall : u.toNat < 0xD800
    · exact .inl hsmall
    · exact .inr ⟨by omega, by omega⟩
  have hnumber : (Char.ofNat u.toNat).toNat = u.toNat := by
    rw [Char.toNat_ofNat, if_pos hvalid]
  unfold ofChar
  rw [hnumber, if_pos hbound, UInt16.ofNat_toNat]

/-- A well-formed string is the encoding of what it reads as. -/
theorem encode_of_decode {s : Units} {cs : List Char} (h : decode s = some cs) :
    encode cs = s := by
  induction s using scan generalizing cs with
  | nil =>
      cases h
      rfl
  | pair u v rest hu hv ih =>
      rw [decode_pair hu hv] at h
      obtain ⟨cs', hrest, rfl⟩ := Option.map_eq_some_iff.mp h
      rw [encode, List.flatMap_cons, ofChar_pairChar hu hv, ← encode, ih hrest]
      rfl
  | lone u rest hu _ =>
      rw [decode_lone hu] at h
      cases h
  | plain u rest hhigh hlow ih =>
      rw [decode_single hhigh hlow] at h
      obtain ⟨cs', hrest, rfl⟩ := Option.map_eq_some_iff.mp h
      rw [encode, List.flatMap_cons, ofChar_unit hhigh hlow, ← encode, ih hrest]
      rfl

/-- The decoder's text is the repaired string. -/
theorem encode_decodeLossy (s : Units) : encode (decodeLossy s) = s.repaired :=
  encode_of_decode (decode_repaired s)

/-- The decoder reads a well-formed string as it is. -/
theorem decodeLossy_of_decode {s : Units} {cs : List Char} (h : decode s = some cs) :
    decodeLossy s = cs := by
  induction s using scan generalizing cs with
  | nil => exact Option.some.inj h
  | pair u v rest hu hv ih =>
      rw [decode_pair hu hv] at h
      obtain ⟨cs', hrest, rfl⟩ := Option.map_eq_some_iff.mp h
      rw [decodeLossy_pair hu hv, ih hrest]
  | lone u rest hu _ =>
      rw [decode_lone hu] at h
      cases h
  | plain u rest hhigh hlow ih =>
      rw [decode_single hhigh hlow] at h
      obtain ⟨cs', hrest, rfl⟩ := Option.map_eq_some_iff.mp h
      rw [decodeLossy_plain hhigh hlow, ih hrest]

/-- Nothing of a well-formed string is replaced. -/
theorem repaired_of_decode {s : Units} {cs : List Char} (h : decode s = some cs) :
    s.repaired = s := by
  rw [← encode_decodeLossy, decodeLossy_of_decode h, encode_of_decode h]

/-- Reading a string fails exactly if one of its surrogates is unpaired. -/
theorem decode_eq_none_iff {s : Units} : decode s = none ↔ ∃ i, s.unpaired i = true := by
  constructor
  · intro hnone
    by_contra hall
    have hpaired (i : Nat) : s.unpaired i = false :=
      Bool.eq_false_of_not_eq_true fun hi => hall ⟨i, hi⟩
    have hread := decode_repaired s
    rw [repaired_eq_of_unpaired hpaired, hnone] at hread
    cases hread
  · rintro ⟨i, hi⟩
    by_contra hsome
    obtain ⟨cs, hcs⟩ := Option.ne_none_iff_exists'.mp hsome
    rw [unpaired_of_repaired_eq (repaired_of_decode hcs) i] at hi
    cases hi

end ScriptHost.Units
