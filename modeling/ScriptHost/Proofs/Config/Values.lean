import ScriptHost.Proofs.Config.Numerals

/-!
# Skipping values

A value that does not matter is skipped with a stack of the brackets that are open, not by
recursion.  So the invariant is about stacks: `After` is what has to follow a complete value
until all brackets are closed, one part for each of them.

Soundness is by induction on the fuel: a round reads the beginning of a value, and what it
leaves on the stack says what the other rounds have to find.  Completeness is by induction on
the value: for every stack, when the value is read the loop is where it goes on with what
follows.
-/

namespace ScriptHost.Config

variable {c c' : Cursor} {rest : Bytes}

/-! ## Words -/

theorem readWord_sound {letters : List Char} (h : readWord letters c = .ok c') :
    c.rest = letters.map ascii ++ c'.rest := by
  induction letters generalizing c with
  | nil =>
      cases h
      rfl
  | cons ch letters ih =>
      unfold readWord at h
      split at h
      · cases h
      rename_i b tail hrest
      split at h
      · rename_i hb
        have hletters := ih h
        rw [Cursor.rest_next hrest] at hletters
        rw [hrest, hb, hletters]
        rfl
      · cases h

theorem readWord_complete {letters : List Char} (hrest : c.rest = letters.map ascii ++ rest) :
    ∃ c', readWord letters c = .ok c' ∧ c'.rest = rest := by
  induction letters generalizing c with
  | nil => exact ⟨c, rfl, hrest⟩
  | cons ch letters ih =>
      obtain ⟨c₁, hword, hrest₁⟩ := ih (Cursor.rest_next hrest)
      refine ⟨c₁, ?_, hrest₁⟩
      unfold readWord
      rw [hrest]
      exact (if_pos rfl).trans hword

theorem bytes_null : bytes "null" = ascii 'n' :: ['u', 'l', 'l'].map ascii := by
  rw [bytes_eq]
  decide

theorem bytes_true : bytes "true" = ascii 't' :: ['r', 'u', 'e'].map ascii := by
  rw [bytes_eq]
  decide

theorem bytes_false : bytes "false" = ascii 'f' :: ['a', 'l', 's', 'e'].map ascii := by
  rw [bytes_eq]
  decide

/-! ## Beginnings -/

instance : DecidablePred Blank := fun _ => inferInstanceAs (Decidable (_ ∨ _))

/-- A byte that can begin a value is no blank, and ends nothing. -/
def Begins (b : UInt8) : Prop :=
  ¬Blank b ∧ b ≠ ascii ',' ∧ b ≠ ascii ']' ∧ b ≠ ascii '\x7d'

instance : DecidablePred Begins := fun _ => inferInstanceAs (Decidable (_ ∧ _))

theorem begins_of_digit {b : UInt8} (h : isDigit b = true) : Begins b := by
  have hne {ch : Char} (hch : isDigit (ascii ch) = false) : b ≠ ascii ch := by
    rintro rfl
    rw [hch] at h
    cases h
  refine ⟨?_, hne (by decide), hne (by decide), hne (by decide)⟩
  rintro (hb | hb | hb | hb)
  · exact hne (by decide) hb
  · exact hne (by decide) hb
  · exact hne (by decide) hb
  · exact hne (by decide) hb

theorem Number.head {source : Bytes} (h : Number source) :
    ∃ b tail, source = b :: tail ∧ (b = ascii '-' ∨ isDigit b = true) := by
  cases h with
  | positive hi hf hx =>
      rcases hi.cases with rfl | ⟨d, tail, rfl, -, hd⟩
      · exact ⟨_, _, rfl, .inr (by decide)⟩
      · exact ⟨_, _, rfl, .inr hd⟩
  | negative hi hf hx => exact ⟨_, _, rfl, .inl rfl⟩

theorem Value.head {source : Bytes} (h : Value source) :
    ∃ b tail, source = b :: tail ∧ Begins b := by
  cases h with
  | null => exact ⟨_, _, bytes_null, by decide⟩
  | true => exact ⟨_, _, bytes_true, by decide⟩
  | false => exact ⟨_, _, bytes_false, by decide⟩
  | number h =>
      obtain ⟨b, tail, rfl, rfl | hb⟩ := h.head
      · exact ⟨_, _, rfl, by decide⟩
      · exact ⟨_, _, rfl, begins_of_digit hb⟩
  | string h => exact ⟨_, _, rfl, by decide⟩
  | list h _ =>
      obtain ⟨inner, rfl, -⟩ := h
      exact ⟨_, _, rfl, by decide⟩
  | object h _ =>
      obtain ⟨inner, rfl, -⟩ := h
      exact ⟨_, _, rfl, by decide⟩

/-! ## Between brackets -/

namespace Frame

/-- The brackets of a list or an object. -/
def left : Frame → Char
  | .list => '['
  | .object => '\x7b'

def right : Frame → Char
  | .list => ']'
  | .object => '\x7d'

/-- What can stand between the commas. -/
def Element : Frame → Bytes → Prop
  | .list, source => Value source
  | .object, source => ∃ m, Member RawKey m source ∧ Value m.2

/-- What can stand between the brackets, up to the closing one. -/
def Inside : Frame → Bool → Bytes → Prop
  | .list, first, source =>
    ∃ items, Elements Item ']' first items source ∧ ∀ item ∈ items, Value item
  | .object, first, source =>
    ∃ members, Elements (Member RawKey) '\x7d' first members source ∧
      ∀ m ∈ members, Value m.2

variable {f : Frame} {first : Bool}

theorem Inside.close {blanks : Bytes} (hb : Blanks blanks) :
    f.Inside first (blanks ++ [ascii f.right]) := by
  cases f with
  | list => exact ⟨[], .close hb, fun _ h => nomatch h⟩
  | object => exact ⟨[], .close hb, fun _ h => nomatch h⟩

theorem Inside.element {lead source rest : Bytes} (hlead : Lead first lead)
    (hsource : f.Element source) (hrest : f.Inside Bool.false rest) :
    f.Inside first (lead ++ source ++ rest) := by
  cases f with
  | list =>
      obtain ⟨items, helements, hvalues⟩ := hrest
      exact ⟨source :: items, .element hlead rfl helements, List.forall_mem_cons.mpr
        ⟨hsource, hvalues⟩⟩
  | object =>
      obtain ⟨m, hmember, hvalue⟩ := hsource
      obtain ⟨members, helements, hvalues⟩ := hrest
      exact ⟨m :: members, .element hlead hmember helements, List.forall_mem_cons.mpr
        ⟨hvalue, hvalues⟩⟩

theorem Inside.value {inner : Bytes} (h : f.Inside Bool.true inner) :
    Value (ascii f.left :: inner) := by
  cases f with
  | list =>
      obtain ⟨items, helements, hvalues⟩ := h
      exact .list ⟨inner, rfl, helements⟩ hvalues
  | object =>
      obtain ⟨members, helements, hvalues⟩ := h
      exact .object ⟨inner, rfl, helements⟩ hvalues

end Frame

/-- What has to follow a value until all brackets are closed.  `first` says that the value is
no element of the innermost bracket, which has just been opened. -/
def After (first : Bool) : List Frame → Bytes → Prop
  | [], source => source = []
  | f :: outer, source =>
    ∃ inner rest, f.Inside first inner ∧ After false outer rest ∧ source = inner ++ rest

theorem Lead.after_blanks {first : Bool} {lead blanks : Bytes} (h : Lead first lead)
    (hb : Blanks blanks) : Lead first (lead ++ blanks) := by
  cases h with
  | first h => exact .first (h.append hb)
  | @next b b' h h' =>
      rw [List.append_assoc]
      exact .next h (h'.append hb)

/-! ## What is skipped is a value -/

/-- What is read when a value is opened: a bracket, or all of it. -/
def Opens : Option Frame → Bytes → Prop
  | some f, text => text = [ascii f.left]
  | none, text => Value text

theorem openValue_sound {opened : Option Frame} (h : openValue c = .ok (opened, c')) :
    ∃ text, c.rest = text ++ c'.rest ∧ Opens opened text := by
  unfold openValue at h
  split at h
  · cases h
  rename_i b tail hrest
  -- Words and brackets are told apart by their first byte.
  have hword {letters : List Char} {word : Bytes} (hword : word = b :: letters.map ascii)
      (hvalue : Value word)
      (h : (readWord letters c.next).map ((none : Option Frame), ·) = .ok (opened, c')) :
      ∃ text, c.rest = text ++ c'.rest ∧ Opens opened text := by
    obtain ⟨c₁, hread, heq⟩ := map_eq_ok.mp h
    cases heq
    have hletters := readWord_sound hread
    rw [Cursor.rest_next hrest] at hletters
    exact ⟨word, by rw [hrest, hletters, hword]; rfl, hvalue⟩
  have hbracket {f : Frame} (hb : b = ascii f.left)
      (h : Except.ok (some f, c.next) = (.ok (opened, c') : Except ReadError _)) :
      ∃ text, c.rest = text ++ c'.rest ∧ Opens opened text := by
    cases h
    exact ⟨[ascii f.left], by rw [hrest, hb, Cursor.rest_next hrest]; rfl, rfl⟩
  split at h
  · rename_i hb
    exact hword (hb ▸ bytes_null) .null h
  split at h
  · rename_i hb
    exact hword (hb ▸ bytes_true) .true h
  split at h
  · rename_i hb
    exact hword (hb ▸ bytes_false) .false h
  split at h
  · obtain ⟨c₁, hread, heq⟩ := map_eq_ok.mp h
    cases heq
    obtain ⟨source, hsource, hnumber⟩ := skipNumeral_sound hread
    exact ⟨source, hsource, .number hnumber⟩
  split at h
  · rename_i hb
    obtain ⟨c₁, hread, heq⟩ := map_eq_ok.mp h
    cases heq
    obtain ⟨source, hsource, hquotable⟩ := skipString_sound hread
    rw [Cursor.rest_next hrest] at hsource
    exact ⟨ascii '"' :: (source ++ [ascii '"']), by rw [hrest, hb, hsource]; simp,
      .string hquotable⟩
  split at h
  · exact hbracket (f := .list) ‹_› h
  split at h
  · exact hbracket (f := .object) ‹_› h
  · cases h

theorem skipKey_sound (h : skipKey c = .ok c') :
    ∃ blanks key blanks', Blanks blanks ∧ Quotable key ∧ Blanks blanks' ∧
      c.rest = blanks ++ ascii '"' :: (key ++ ascii '"' :: (blanks' ++ ascii ':' :: c'.rest)) := by
  obtain ⟨blanks, hblanks, hsplit⟩ := c.skipBlanks_split
  unfold skipKey at h
  dsimp only at h
  split at h
  · cases h
  rename_i b tail hrest
  split at h
  · rename_i hb
    obtain ⟨c₁, hread, h⟩ := bind_eq_ok.mp h
    obtain ⟨key, hkey, hquotable⟩ := skipString_sound hread
    obtain ⟨blanks', hblanks', hsplit'⟩ := c₁.skipBlanks_split
    rw [Cursor.rest_next hrest] at hkey
    split at h
    · cases h
    rename_i b' tail' hrest'
    split at h
    · rename_i hb'
      cases h
      refine ⟨blanks, key, blanks', hblanks, hquotable, hblanks', ?_⟩
      rw [hsplit, hrest, hb, hkey, hsplit', hrest', hb', Cursor.rest_next hrest']
    · cases h
  · cases h

/-- When no bracket is left open, all that had to follow was there; otherwise an element of the
innermost one is missing, and what has to follow that. -/
def Closes (first : Bool) (frames : List Frame) (closing : Bytes) : List Frame → Prop
  | [] => After first frames closing
  | f :: outer => ∀ blanks source rest, Blanks blanks → f.Element source →
      After false (f :: outer) rest → After first frames (closing ++ (blanks ++ (source ++ rest)))

/-- Behind a closing bracket the outer ones are next. -/
private theorem Closes.outer {first : Bool} {f : Frame} {outer frames : List Frame}
    {blanks closing : Bytes} (hb : Blanks blanks) (h : Closes false outer closing frames) :
    Closes first (f :: outer) (blanks ++ ascii f.right :: closing) frames := by
  have hclose {source : Bytes} (hsource : After false outer source) :
      After first (f :: outer) (blanks ++ ascii f.right :: source) :=
    ⟨_, source, .close hb, hsource, by simp⟩
  cases frames with
  | nil => exact hclose h
  | cons f' outer' =>
      intro blanks' source rest hblanks' hsource hrest
      simpa using hclose (h blanks' source rest hblanks' hsource hrest)

/-- In front of an element the bracket stays open. -/
private theorem Closes.element {first : Bool} {f : Frame} {outer : List Frame} {closing : Bytes}
    (h : ∀ blanks, Blanks blanks → Lead first (closing ++ blanks)) :
    Closes first (f :: outer) closing (f :: outer) := by
  rintro blanks source rest hblanks hsource ⟨inner, rest', hinside, hafter, rfl⟩
  exact ⟨_, rest', hinside.element (h blanks hblanks) hsource, hafter, by simp⟩

/-- Only brackets that were opened are closed, the innermost first. -/
theorem closeFrames_sound {comma : Bool} {frames frames' : List Frame}
    (h : closeFrames comma frames c = .ok (frames', c')) :
    ∃ closing, c.rest = closing ++ c'.rest ∧ Closes (!comma) frames closing frames' := by
  induction frames generalizing comma c with
  | nil =>
      cases h
      exact ⟨[], rfl, rfl⟩
  | cons f outer ih =>
      obtain ⟨blanks, hblanks, hsplit⟩ := c.skipBlanks_split
      unfold closeFrames at h
      dsimp only at h
      split at h
      · cases h
      rename_i b tail hrest
      split at h
      · -- A comma: the bracket stays open, and an element has to follow.
        rename_i hboth
        cases h
        obtain ⟨hb, hcomma⟩ := Bool.and_eq_true_iff.mp hboth
        refine ⟨blanks ++ [ascii ','], ?_, .element fun blanks' hblanks' => ?_⟩
        · rw [hsplit, hrest, of_decide_eq_true hb, Cursor.rest_next hrest]
          simp
        · rw [hcomma, List.append_assoc]
          exact .next hblanks hblanks'
      split at h
      · -- The bracket is closed, and what follows is about the one around it.
        rename_i hbracket
        have hb : b = ascii f.right := by
          cases f <;> simpa [Frame.right] using hbracket
        obtain ⟨closing, hclosing, hcloses⟩ := ih h
        refine ⟨blanks ++ ascii f.right :: closing, ?_, hcloses.outer hblanks⟩
        rw [Cursor.rest_next hrest] at hclosing
        rw [hsplit, hrest, hb, hclosing]
        simp
      split at h
      · cases h
      · -- Neither of them, so the first element begins.
        rename_i hcomma
        cases h
        refine ⟨blanks, hsplit, .element fun blanks' hblanks' => ?_⟩
        rw [Bool.eq_false_iff.mpr hcomma]
        exact .first (hblanks.append hblanks')

/-- Goes on with the next element of the innermost bracket. -/
def enter (f : Frame) (fuel : Nat) (frames : List Frame) (c : Cursor) :
    Except ReadError Cursor :=
  match f with
  | .list => skipValues fuel frames c
  | .object => skipKey c >>= skipValues fuel frames

/-- What is done behind the beginning of a value: brackets are closed, and if one is left open
then the next element is skipped. -/
def resume (fuel : Nat) (comma : Bool) (frames : List Frame) (c : Cursor) :
    Except ReadError Cursor :=
  closeFrames comma frames c >>= fun r =>
    match r.1 with
    | [] => .ok r.2
    | f :: outer => enter f fuel (f :: outer) r.2

theorem skipValues_succ (fuel : Nat) (frames : List Frame) (c : Cursor) :
    skipValues (fuel + 1) frames c = (openValue c.skipBlanks >>= fun r =>
      match r.1 with
      | some f => resume fuel false (f :: frames) r.2
      | none => resume fuel true frames r.2) := by
  rw [skipValues]
  congr 1
  funext r
  obtain ⟨opened, c₁⟩ := r
  rcases opened with _ | f <;>
  · refine congrArg (closeFrames _ _ c₁ >>= ·) (funext fun r => ?_)
    obtain ⟨frames', c₂⟩ := r
    rcases frames' with _ | ⟨_ | _, outer⟩ <;> rfl

private theorem resume_sound {fuel : Nat} (ih : ∀ {frames : List Frame} {c : Cursor},
      skipValues fuel frames c = .ok c' →
        ∃ blanks source after, Blanks blanks ∧ Value source ∧ After false frames after ∧
          c.rest = blanks ++ (source ++ (after ++ c'.rest)))
    {comma : Bool} {frames : List Frame} (h : resume fuel comma frames c = .ok c') :
    ∃ after, c.rest = after ++ c'.rest ∧ After (!comma) frames after := by
  obtain ⟨⟨frames', c₁⟩, hclose, h⟩ := bind_eq_ok.mp h
  obtain ⟨closing, hclosing, hcloses⟩ := closeFrames_sound hclose
  cases frames' with
  | nil =>
      cases h
      exact ⟨closing, hclosing, hcloses⟩
  | cons f outer =>
      cases f with
      | list =>
          obtain ⟨blanks, source, after, hblanks, hvalue, hafter, hsplit⟩ := ih h
          exact ⟨_, by rw [hclosing, hsplit]; simp,
            hcloses blanks source after hblanks hvalue hafter⟩
      | object =>
          obtain ⟨c₂, hkey, h⟩ := bind_eq_ok.mp h
          obtain ⟨blanks, key, blanks', hblanks, hquotable, hblanks', hrest⟩ := skipKey_sound hkey
          obtain ⟨blanks'', source, after, hblanks'', hvalue, hafter, hsplit⟩ := ih h
          exact ⟨_, by rw [hclosing, hrest, hsplit]; simp,
            hcloses blanks _ after hblanks ⟨(key, source), ⟨key, blanks', blanks'',
              ⟨hquotable, rfl⟩, hblanks', hblanks'', rfl⟩, hvalue⟩ hafter⟩

/-- What is skipped is a value, and what has to follow it. -/
theorem skipValues_sound {fuel : Nat} {frames : List Frame}
    (h : skipValues fuel frames c = .ok c') :
    ∃ blanks source after, Blanks blanks ∧ Value source ∧ After false frames after ∧
      c.rest = blanks ++ (source ++ (after ++ c'.rest)) := by
  induction fuel generalizing frames c with
  | zero => cases h
  | succ fuel ih =>
      obtain ⟨blanks, hblanks, hsplit⟩ := c.skipBlanks_split
      rw [skipValues_succ] at h
      obtain ⟨⟨opened, c₁⟩, hopen, h⟩ := bind_eq_ok.mp h
      obtain ⟨text, htext, hopens⟩ := openValue_sound hopen
      cases opened with
      | some f =>
          obtain ⟨_, hafter, inner, rest, hinside, hrest, rfl⟩ := resume_sound ih h
          refine ⟨blanks, ascii f.left :: inner, rest, hblanks, hinside.value, hrest, ?_⟩
          rw [hsplit, htext, hopens, hafter]
          simp
      | none =>
          obtain ⟨after, hafter, hcomplete⟩ := resume_sound ih h
          exact ⟨blanks, text, after, hblanks, hopens, hcomplete, by rw [hsplit, htext, hafter]⟩

theorem skipValue_sound (h : skipValue c = .ok c') :
    ∃ blanks source, Blanks blanks ∧ Value source ∧ c.rest = blanks ++ (source ++ c'.rest) := by
  obtain ⟨blanks, source, after, hblanks, hvalue, rfl, hsplit⟩ := skipValues_sound h
  exact ⟨blanks, source, hblanks, hvalue, hsplit⟩

/-! ## Every value is skipped -/

/-- Whatever brackets are open, skipping gets behind a text. -/
def Passes (skip : Nat → List Frame → Cursor → Except ReadError Cursor) (source : Bytes) : Prop :=
  ∀ (fuel : Nat) (frames : List Frame) (c : Cursor) (blanks rest : Bytes), Blanks blanks →
    Ends rest → c.rest = blanks ++ (source ++ rest) → c.rest.length < fuel →
      ∃ fuel' c', c'.rest = rest ∧ rest.length < fuel' ∧
        skip fuel frames c = resume fuel' true frames c'

theorem Frame.right_ne (f : Frame) : ascii f.right ≠ ascii ',' ∧ ¬Blank (ascii f.right) := by
  cases f <;> decide

/-- What follows an element ends it. -/
theorem Elements.ends {α : Type} {R : α → Bytes → Prop} {f : Frame} {as : List α}
    {source : Bytes} (h : Elements R f.right false as source) (rest : Bytes) :
    Ends (source ++ rest) := by
  intro b hb
  have hblank {blanks : Bytes} (next : UInt8) (tail : Bytes) (hblanks : Blanks blanks)
      (hnext : next = ascii ',' ∨ next = ascii ']' ∨ next = ascii '\x7d')
      (hb : b ∈ (blanks ++ next :: tail).head?) :
      Blank b ∨ b = ascii ',' ∨ b = ascii ']' ∨ b = ascii '\x7d' := by
    cases blanks with
    | nil =>
        cases hb
        exact .inr hnext
    | cons b' blanks =>
        cases hb
        exact .inl (hblanks b List.mem_cons_self)
  cases h with
  | close hblanks =>
      refine hblank (ascii f.right) rest hblanks ?_ (by simpa using hb)
      cases f with
      | list => exact .inr (.inl rfl)
      | object => exact .inr (.inr rfl)
  | element hlead hsource hrest =>
      cases hlead with
      | next hblanks hblanks' =>
          simp only [List.append_assoc, List.cons_append] at hb
          exact hblank _ _ hblanks (.inl rfl) hb

theorem closeFrames_close {f : Frame} (outer : List Frame) (comma : Bool) {blanks : Bytes}
    (hblanks : Blanks blanks) (hrest : c.rest = blanks ++ ascii f.right :: rest) :
    ∃ c', c'.rest = rest ∧ closeFrames comma (f :: outer) c = closeFrames true outer c' := by
  have hbehind := Cursor.skipBlanks_of_blanks hblanks f.right_ne.2 hrest
  refine ⟨c.skipBlanks.next, Cursor.rest_next hbehind, ?_⟩
  conv_lhs => unfold closeFrames
  dsimp only
  rw [hbehind]
  dsimp only
  rw [if_neg (fun h => f.right_ne.1 (of_decide_eq_true (Bool.and_eq_true_iff.mp h).1)),
    if_pos (by cases f <;> rfl)]

theorem closeFrames_comma (f : Frame) (outer : List Frame) {blanks : Bytes}
    (hblanks : Blanks blanks) (hrest : c.rest = blanks ++ ascii ',' :: rest) :
    ∃ c', c'.rest = rest ∧ closeFrames true (f :: outer) c = .ok (f :: outer, c') := by
  have hbehind := Cursor.skipBlanks_of_blanks hblanks (by decide) hrest
  refine ⟨c.skipBlanks.next, Cursor.rest_next hbehind, ?_⟩
  unfold closeFrames
  dsimp only
  rw [hbehind]
  rfl

theorem closeFrames_element (f : Frame) (outer : List Frame) {blanks : Bytes} {b : UInt8}
    (hblanks : Blanks blanks) (hb : Begins b) (hrest : c.rest = blanks ++ b :: rest) :
    ∃ c', c'.rest = b :: rest ∧ closeFrames false (f :: outer) c = .ok (f :: outer, c') := by
  have hbehind := Cursor.skipBlanks_of_blanks hblanks hb.1 hrest
  refine ⟨c.skipBlanks, hbehind, ?_⟩
  unfold closeFrames
  dsimp only
  rw [hbehind]
  dsimp only
  rw [if_neg (by simp), if_neg (by simp [hb.2.2.1, hb.2.2.2]), if_neg Bool.false_ne_true]

/-- The elements between two brackets are skipped one after the other. -/
theorem resume_elements {α : Type} {R : α → Bytes → Prop} {f : Frame} {first : Bool}
    {as : List α} {inner : Bytes} (h : Elements R f.right first as inner)
    (hR : ∀ a ∈ as, ∀ source, R a source →
      (∃ b tail, source = b :: tail ∧ Begins b) ∧ Passes (enter f) source)
    {fuel : Nat} {frames : List Frame} (hrest : c.rest = inner ++ rest)
    (hfuel : c.rest.length < fuel) :
    ∃ fuel' c', c'.rest = rest ∧ rest.length < fuel' ∧
      resume fuel (!first) (f :: frames) c = resume fuel' true frames c' := by
  induction h generalizing c fuel with
  | @close first blanks hblanks =>
      rw [List.append_assoc] at hrest
      obtain ⟨c₁, hrest₁, hclose⟩ := closeFrames_close frames (!first) hblanks hrest
      refine ⟨fuel, c₁, hrest₁, ?_, by rw [resume, hclose]; rfl⟩
      rw [hrest, List.length_append] at hfuel
      simp only [List.cons_append, List.nil_append, List.length_cons] at hfuel
      omega
  | @element first lead source inner a as hlead hsource hinner ih =>
      obtain ⟨⟨b, tail, hhead, hb⟩, hpasses⟩ := hR a List.mem_cons_self source hsource
      -- What leads to an element is read where the one before it ends.
      obtain ⟨c₁, blanks', hblanks', hrest₁, hle, hclose⟩ : ∃ c₁ blanks', Blanks blanks' ∧
          c₁.rest = blanks' ++ (source ++ (inner ++ rest)) ∧ blanks'.length ≤ lead.length ∧
          closeFrames (!first) (f :: frames) c = .ok (f :: frames, c₁) := by
        cases hlead with
        | first hblanks =>
            rw [List.append_assoc, List.append_assoc, hhead] at hrest
            obtain ⟨c₁, hrest₁, hclose⟩ := closeFrames_element f frames hblanks hb hrest
            exact ⟨c₁, [], Blanks.nil, by rw [hrest₁, hhead]; rfl, Nat.zero_le _, hclose⟩
        | @next blanks blanks' hblanks hblanks' =>
            simp only [List.append_assoc, List.cons_append] at hrest
            obtain ⟨c₁, hrest₁, hclose⟩ := closeFrames_comma f frames hblanks hrest
            refine ⟨c₁, blanks', hblanks', hrest₁, ?_, hclose⟩
            rw [List.length_append, List.length_cons]
            omega
      -- Fuel is counted in bytes, and there are no more of them left than before.
      have hfuel₁ : c₁.rest.length < fuel := by
        rw [hrest] at hfuel
        rw [hrest₁]
        simp only [List.length_append] at hfuel ⊢
        omega
      obtain ⟨fuel₂, c₂, hrest₂, hfuel₂, henter⟩ :=
        hpasses fuel (f :: frames) c₁ blanks' _ hblanks' (hinner.ends rest) hrest₁ hfuel₁
      obtain ⟨fuel₃, c₃, hrest₃, hfuel₃, hresume⟩ :=
        ih (fun a ha => hR a (List.mem_cons_of_mem _ ha)) hrest₂ (hrest₂ ▸ hfuel₂)
      refine ⟨fuel₃, c₃, hrest₃, hfuel₃, ?_⟩
      rw [resume, hclose]
      exact henter.trans hresume

/-- A value without brackets is read at once. -/
private theorem passes_of_open {source : Bytes} (hvalue : Value source)
    (hopen : ∀ (c : Cursor) (rest : Bytes), Ends rest → c.rest = source ++ rest →
      ∃ c', openValue c = .ok (none, c') ∧ c'.rest = rest) : Passes skipValues source := by
  intro fuel frames c blanks rest hblanks hends hrest hfuel
  obtain ⟨b, tail, rfl, hb⟩ := hvalue.head
  obtain ⟨fuel, rfl⟩ := Nat.exists_eq_succ_of_ne_zero (Nat.ne_zero_of_lt hfuel)
  obtain ⟨c₁, hread, hrest₁⟩ := hopen c.skipBlanks rest hends
    (Cursor.skipBlanks_of_blanks hblanks hb.1 hrest)
  refine ⟨fuel, c₁, hrest₁, ?_, ?_⟩
  · rw [hrest] at hfuel
    simp only [List.length_append, List.length_cons] at hfuel
    omega
  · rw [skipValues_succ, hread]
    rfl

/-- A value in brackets is opened, and then its elements are skipped. -/
private theorem passes_of_bracketed {α : Type} {R : α → Bytes → Prop} {f : Frame} {as : List α}
    {source : Bytes} (h : Bracketed R f.left f.right as source)
    (hR : ∀ a ∈ as, ∀ source, R a source →
      (∃ b tail, source = b :: tail ∧ Begins b) ∧ Passes (enter f) source) :
    Passes skipValues source := by
  obtain ⟨inner, rfl, helements⟩ := h
  intro fuel frames c blanks rest hblanks hends hrest hfuel
  obtain ⟨fuel, rfl⟩ := Nat.exists_eq_succ_of_ne_zero (Nat.ne_zero_of_lt hfuel)
  have hbehind := Cursor.skipBlanks_of_blanks hblanks (by cases f <;> decide) hrest
  have hopen : openValue c.skipBlanks = .ok (some f, c.skipBlanks.next) := by
    unfold openValue
    rw [hbehind]
    cases f <;> rfl
  have hrest₁ : c.skipBlanks.next.rest = inner ++ rest := Cursor.rest_next hbehind
  have hfuel₁ : c.skipBlanks.next.rest.length < fuel := by
    rw [hrest] at hfuel
    rw [hrest₁]
    simp only [List.length_append, List.length_cons] at hfuel ⊢
    omega
  obtain ⟨fuel', c', hrest', hfuel', hresume⟩ := resume_elements helements hR hrest₁ hfuel₁
  refine ⟨fuel', c', hrest', hfuel', ?_⟩
  rw [skipValues_succ, hopen]
  exact hresume

theorem skipKey_complete {key blanks blanks' : Bytes} (hblanks : Blanks blanks)
    (hkey : Quotable key) (hblanks' : Blanks blanks')
    (hrest : c.rest =
      blanks ++ ascii '"' :: (key ++ ascii '"' :: (blanks' ++ ascii ':' :: rest))) :
    ∃ c', skipKey c = .ok c' ∧ c'.rest = rest := by
  have hbehind := Cursor.skipBlanks_of_blanks hblanks (by decide) hrest
  obtain ⟨c₁, hread, hrest₁⟩ := skipString_complete hkey (Cursor.rest_next hbehind)
  have hbehind₁ := Cursor.skipBlanks_of_blanks hblanks' (by decide) hrest₁
  refine ⟨c₁.skipBlanks.next, ?_, Cursor.rest_next hbehind₁⟩
  unfold skipKey
  dsimp only
  rw [hbehind]
  dsimp only
  rw [if_pos rfl]
  refine bind_eq_ok.mpr ⟨c₁, hread, ?_⟩
  rw [hbehind₁]
  exact if_pos rfl

private theorem openValue_number {b : UInt8} {tail : Bytes}
    (hb : b = ascii '-' ∨ isDigit b = true) (hrest : c.rest = b :: tail) :
    openValue c = (skipNumeral c).map (none, ·) := by
  have hne {ch : Char} (hminus : ascii '-' ≠ ascii ch) (hdigit : isDigit (ascii ch) = false) :
      b ≠ ascii ch := by
    rcases hb with rfl | hb
    · exact hminus
    · rintro rfl
      exact absurd hb (Bool.eq_false_iff.mp hdigit)
  unfold openValue
  rw [hrest]
  dsimp only
  rw [if_neg (hne (by decide) (by decide)), if_neg (hne (by decide) (by decide)),
    if_neg (hne (by decide) (by decide)), if_pos (by simpa using hb)]

/-- Every value is skipped as a whole. -/
theorem passes_of_value {source : Bytes} (h : Value source) : Passes skipValues source := by
  have hword {letters : List Char} {ch : Char} {word : Bytes} (hvalue : Value word)
      (hword : word = ascii ch :: letters.map ascii)
      (hopen : ∀ {c : Cursor} {tail : Bytes}, c.rest = ascii ch :: tail →
        openValue c = (readWord letters c.next).map (none, ·)) : Passes skipValues word := by
    refine passes_of_open hvalue fun c rest _ hrest => ?_
    rw [hword] at hrest
    obtain ⟨c₁, hread, hrest₁⟩ := readWord_complete (Cursor.rest_next hrest)
    exact ⟨c₁, by rw [hopen hrest, hread]; rfl, hrest₁⟩
  induction h with
  | null =>
      refine hword .null bytes_null fun hrest => ?_
      unfold openValue
      rw [hrest]
      rfl
  | true =>
      refine hword .true bytes_true fun hrest => ?_
      unfold openValue
      rw [hrest]
      rfl
  | false =>
      refine hword .false bytes_false fun hrest => ?_
      unfold openValue
      rw [hrest]
      rfl
  | @number source h =>
      refine passes_of_open (.number h) fun c rest hends hrest => ?_
      obtain ⟨c₁, hread, hrest₁⟩ := skipNumeral_complete h hends hrest
      obtain ⟨b, tail, rfl, hb⟩ := h.head
      refine ⟨c₁, ?_, hrest₁⟩
      rw [openValue_number hb hrest, hread]
      rfl
  | @string source h =>
      refine passes_of_open (.string h) fun c rest _ hrest => ?_
      have hrest' : c.rest = ascii '"' :: (source ++ ascii '"' :: rest) := by
        rw [hrest]
        simp
      obtain ⟨c₁, hread, hrest₁⟩ := skipString_complete h (Cursor.rest_next hrest')
      refine ⟨c₁, ?_, hrest₁⟩
      unfold openValue
      rw [hrest']
      exact congrArg (Except.map (none, ·)) hread
  | @list items source hitems hvalues ih =>
      refine passes_of_bracketed (f := .list) hitems fun item hitem source' hsource => ?_
      cases hsource
      exact ⟨(hvalues item hitem).head, ih item hitem⟩
  | @object members source hmembers hvalues ih =>
      refine passes_of_bracketed (f := .object) hmembers fun m hm source' hsource => ?_
      obtain ⟨key, blanks₁, blanks₂, ⟨hkey, -⟩, hblanks₁, hblanks₂, rfl⟩ := hsource
      refine ⟨⟨_, _, rfl, by decide⟩, fun fuel frames c blanks rest hblanks hends hrest hfuel => ?_⟩
      simp only [List.append_assoc, List.cons_append] at hrest
      -- The key is read with the value that it stands in front of.
      obtain ⟨c₁, hread, hrest₁⟩ := skipKey_complete hblanks hkey hblanks₁ hrest
      obtain ⟨fuel', c', hrest', hfuel', hskip⟩ := ih m hm fuel frames c₁ blanks₂ rest hblanks₂
        hends hrest₁ (by
          rw [hrest] at hfuel
          rw [hrest₁]
          simp only [List.length_append, List.length_cons] at hfuel ⊢
          omega)
      exact ⟨fuel', c', hrest', hfuel', by rw [enter, hread]; exact hskip⟩

/-- Every value is skipped, and nothing behind it. -/
theorem skipValue_complete {blanks source : Bytes} (hblanks : Blanks blanks)
    (h : Value source) (hends : Ends rest) (hrest : c.rest = blanks ++ (source ++ rest)) :
    ∃ c', skipValue c = .ok c' ∧ c'.rest = rest := by
  obtain ⟨fuel, c₁, hrest₁, hfuel, hskip⟩ := passes_of_value h _ [] c blanks rest hblanks hends
    hrest (Nat.lt_succ_self _)
  exact ⟨c₁, hskip, hrest₁⟩

end ScriptHost.Config
