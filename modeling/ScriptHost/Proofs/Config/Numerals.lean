import ScriptHost.Proofs.Config.Tokens

/-!
# Reading numbers

A number that is skipped has any form that numbers have.  A size is read with its value, and
must be an integer that fits sixty-four bits: digits are added up while the sum fits, so what
is left over is noticed, and never wraps around.

Where a number ends is decided by what follows it.  Behind a value there is a blank, a comma,
a bracket or nothing, and none of these can be a part of a number.
-/

namespace ScriptHost.Config

/-- Nothing is left, or what follows can end a number. -/
def Ends (bs : Bytes) : Prop :=
  ∀ b ∈ bs.head?, Blank b ∨ b = ascii ',' ∨ b = ascii ']' ∨ b = ascii '\x7d'

/-- No byte of a number is a byte that can end one. -/
theorem Ends.stops {bs : Bytes} (h : Ends bs) :
    ∀ b ∈ bs.head?, isDigit b = false ∧ b ≠ ascii '.' ∧ b ≠ ascii 'e' ∧ b ≠ ascii 'E' := by
  intro b hb
  rcases h b hb with (rfl | rfl | rfl | rfl) | rfl | rfl | rfl <;> decide

variable {c c' : Cursor} {rest : Bytes}

theorem Cursor.sees_false {ch : Char} (h : ∀ b ∈ c.rest.head?, b ≠ ascii ch) :
    c.sees ch = false := by
  rw [Bool.eq_false_iff]
  intro hsees
  obtain ⟨bs, hbs⟩ := Cursor.sees_iff.mp hsees
  exact h (ascii ch) (by rw [hbs]; rfl) rfl

/-! ## Runs of digits -/

theorem Cursor.digits_split (c : Cursor) :
    c.rest = c.digits.1 ++ c.digits.2.rest ∧ ∀ d ∈ c.digits.1, Digit d :=
  ⟨List.takeWhile_append_dropWhile.symm, fun _ hd => digit_iff.mp (List.mem_takeWhile_imp hd)⟩

/-- A run of digits is taken off as a whole. -/
theorem Cursor.digits_of_run {ds : Bytes} (hds : ∀ d ∈ ds, Digit d)
    (hstop : ∀ b ∈ rest.head?, isDigit b = false) (hrest : c.rest = ds ++ rest) :
    c.digits.1 = ds ∧ c.digits.2.rest = rest := by
  have hall : ∀ d ∈ ds, isDigit d = true := fun d hd => digit_iff.mpr (hds d hd)
  have hnone : rest.takeWhile isDigit = [] ∧ rest.dropWhile isDigit = rest := by
    cases rest with
    | nil => exact ⟨rfl, rfl⟩
    | cons b bs =>
        have hb := hstop b rfl
        rw [List.takeWhile_cons, List.dropWhile_cons, hb]
        exact ⟨rfl, rfl⟩
  unfold Cursor.digits
  rw [hrest]
  dsimp only
  rw [List.takeWhile_append_of_pos hall, List.dropWhile_append_of_pos hall, hnone.1, hnone.2,
    List.append_nil]
  exact ⟨rfl, rfl⟩

/-- An integer is a zero on its own, or begins with another digit. -/
theorem Integer.cases {ds : Bytes} (h : Integer ds) :
    ds = [ascii '0'] ∨ ∃ d tail, ds = d :: tail ∧ d ≠ ascii '0' ∧ isDigit d = true := by
  obtain ⟨⟨hne, hall⟩, hzero⟩ := h
  cases ds with
  | nil => exact absurd rfl hne
  | cons d tail =>
      by_cases hd : d = ascii '0'
      · exact .inl (hzero (congrArg some hd))
      · exact .inr ⟨d, tail, rfl, hd, digit_iff.mpr (hall d List.mem_cons_self)⟩

theorem integer_zero : Integer [ascii '0'] := by
  refine ⟨⟨List.cons_ne_nil _ _, fun d hd => ?_⟩, fun _ => rfl⟩
  rw [List.mem_singleton.mp hd]
  exact digit_iff.mp (by decide)

/-- The digits at a cursor that begins with one, but with no zero. -/
theorem integer_digits {d : UInt8} {tail : Bytes} (hrest : c.rest = d :: tail)
    (hd : isDigit d = true) (hzero : d ≠ ascii '0') : Integer c.digits.1 := by
  obtain ⟨-, hall⟩ := c.digits_split
  have hhead : c.digits.1 = d :: tail.takeWhile isDigit := by
    unfold Cursor.digits
    rw [hrest]
    exact List.takeWhile_cons_of_pos hd
  refine ⟨⟨?_, hall⟩, fun h => ?_⟩
  · rw [hhead]
    exact List.cons_ne_nil _ _
  · rw [hhead] at h
    exact absurd (Option.some.inj h) hzero

/-! ## Numbers that are skipped -/

theorem skipExponent_sound {e : UInt8} {tail : Bytes} (hrest : c.rest = e :: tail)
    (he : e = ascii 'e' ∨ e = ascii 'E') (h : skipExponent c = .ok c') :
    ∃ x, c.rest = x ++ c'.rest ∧ Exponent x := by
  unfold skipExponent at h
  dsimp only at h
  -- The sign is passed, whether there is one or not.
  obtain ⟨sign, hsign, hsplit⟩ : ∃ sign, Sign sign ∧ c.next.rest =
      sign ++
        (if (c.next.sees '+' || c.next.sees '-') = true then c.next.next else c.next).rest := by
    split
    · rename_i hsees
      rcases Bool.or_eq_true_iff.mp hsees with hs | hs
      · obtain ⟨bs, hbs⟩ := Cursor.sees_iff.mp hs
        exact ⟨[ascii '+'], .inr (.inl rfl), by rw [Cursor.rest_next hbs, hbs]; rfl⟩
      · obtain ⟨bs, hbs⟩ := Cursor.sees_iff.mp hs
        exact ⟨[ascii '-'], .inr (.inr rfl), by rw [Cursor.rest_next hbs, hbs]; rfl⟩
    · exact ⟨[], .inl rfl, rfl⟩
  generalize (if (c.next.sees '+' || c.next.sees '-') = true then c.next.next else c.next) = c₁
    at h hsplit
  split at h
  · cases h
  -- Behind it stands a digit at least.
  rename_i d tail' hrest₁
  split at h
  · rename_i hd
    cases h
    obtain ⟨hds, hall⟩ := c₁.next.digits_split
    rw [Cursor.rest_next hrest₁] at hds
    refine ⟨e :: (sign ++ d :: c₁.next.digits.1), ?_, .power he hsign ⟨List.cons_ne_nil _ _, ?_⟩⟩
    · rw [Cursor.rest_next hrest] at hsplit
      rw [hrest, hsplit, hrest₁, hds, List.cons_append, List.append_assoc]
      rfl
    · intro b hb
      rcases List.mem_cons.mp hb with rfl | hb
      · exact digit_iff.mp hd
      · exact hall b hb
  · cases h

private theorem skipPower_sound
    (h : (if c.sees 'e' || c.sees 'E' then skipExponent c else .ok c) = .ok c') :
    ∃ x, c.rest = x ++ c'.rest ∧ Exponent x := by
  split at h
  · rename_i hsees
    rcases Bool.or_eq_true_iff.mp hsees with hs | hs
    · obtain ⟨bs, hbs⟩ := Cursor.sees_iff.mp hs
      exact skipExponent_sound hbs (.inl rfl) h
    · obtain ⟨bs, hbs⟩ := Cursor.sees_iff.mp hs
      exact skipExponent_sound hbs (.inr rfl) h
  · cases h
    exact ⟨[], rfl, .none⟩

private theorem skipTail_sound (h : (if c.sees '.' then skipFraction c
      else if c.sees 'e' || c.sees 'E' then skipExponent c else .ok c) = .ok c') :
    ∃ f x, c.rest = f ++ (x ++ c'.rest) ∧ Fraction f ∧ Exponent x := by
  split at h
  · rename_i hsees
    obtain ⟨bs, hbs⟩ := Cursor.sees_iff.mp hsees
    obtain ⟨hsplit, hall⟩ := c.next.digits_split
    rw [Cursor.rest_next hbs] at hsplit
    unfold skipFraction at h
    dsimp only at h
    split at h
    · cases h
    rename_i hne
    obtain ⟨x, hx, hexponent⟩ := skipPower_sound h
    refine ⟨ascii '.' :: c.next.digits.1, x, ?_, .point ⟨?_, hall⟩, hexponent⟩
    · rw [hbs, hsplit, hx]
      rfl
    · exact fun hnil => hne (List.isEmpty_iff.mpr hnil)
  · obtain ⟨x, hx, hexponent⟩ := skipPower_sound h
    exact ⟨[], x, hx, .none, hexponent⟩

theorem skipUnsigned_sound (h : skipUnsigned c = .ok c') :
    ∃ i f x, c.rest = i ++ (f ++ (x ++ c'.rest)) ∧ Integer i ∧ Fraction f ∧ Exponent x := by
  unfold skipUnsigned at h
  split at h
  · cases h
  rename_i d tail hrest
  split at h
  · cases h
  split at h
  · rename_i hd
    obtain ⟨f, x, hsplit, hfraction, hexponent⟩ := skipTail_sound h
    by_cases hzero : d = ascii '0'
    · rw [if_pos hzero, Cursor.rest_next hrest] at hsplit
      exact ⟨[ascii '0'], f, x, by rw [hrest, hzero, hsplit]; rfl, integer_zero, hfraction,
        hexponent⟩
    · rw [if_neg hzero] at hsplit
      exact ⟨c.digits.1, f, x, by rw [← hsplit]; exact c.digits_split.1,
        integer_digits hrest hd hzero, hfraction, hexponent⟩
  · cases h

theorem skipNumeral_sound (h : skipNumeral c = .ok c') :
    ∃ source, c.rest = source ++ c'.rest ∧ Number source := by
  unfold skipNumeral at h
  split at h
  · rename_i hsees
    obtain ⟨bs, hbs⟩ := Cursor.sees_iff.mp hsees
    obtain ⟨i, f, x, hsplit, hi, hf, hx⟩ := skipUnsigned_sound h
    rw [Cursor.rest_next hbs] at hsplit
    exact ⟨ascii '-' :: (i ++ f ++ x), by rw [hbs, hsplit]; simp, .negative hi hf hx⟩
  · obtain ⟨i, f, x, hsplit, hi, hf, hx⟩ := skipUnsigned_sound h
    exact ⟨i ++ f ++ x, by rw [hsplit]; simp, .positive hi hf hx⟩

/-! ### All of them -/

private theorem Digits.cases {ds : Bytes} (h : Digits ds) :
    ∃ d tail, ds = d :: tail ∧ isDigit d = true ∧ ∀ b ∈ tail, Digit b := by
  obtain ⟨hne, hall⟩ := h
  cases ds with
  | nil => exact absurd rfl hne
  | cons d tail =>
      exact ⟨d, tail, rfl, digit_iff.mpr (hall d List.mem_cons_self),
        fun b hb => hall b (List.mem_cons_of_mem d hb)⟩

/-- A digit is no other character. -/
private theorem sees_of_digit {d : UInt8} {tail : Bytes} (hd : isDigit d = true)
    (hrest : c.rest = d :: tail) {ch : Char} (hch : isDigit (ascii ch) = false) :
    c.sees ch = false := by
  refine Cursor.sees_false fun b hb heq => ?_
  rw [hrest] at hb
  cases hb
  rw [heq, hch] at hd
  cases hd

theorem skipExponent_complete {e : UInt8} {sign ds : Bytes} (hsign : Sign sign) (hds : Digits ds)
    (hstop : ∀ b ∈ rest.head?, isDigit b = false) (hrest : c.rest = e :: (sign ++ (ds ++ rest))) :
    ∃ c', skipExponent c = .ok c' ∧ c'.rest = rest := by
  obtain ⟨d, tail, rfl, hd, hall⟩ := hds.cases
  have hnext := Cursor.rest_next hrest
  obtain ⟨c₁, hc₁, hrest₁⟩ : ∃ c₁, (if (c.next.sees '+' || c.next.sees '-') = true then c.next.next
      else c.next) = c₁ ∧ c₁.rest = d :: (tail ++ rest) := by
    rcases hsign with rfl | rfl | rfl
    · have hplus : c.next.sees '+' = false := sees_of_digit hd hnext (by decide)
      have hminus : c.next.sees '-' = false := sees_of_digit hd hnext (by decide)
      exact ⟨c.next, by rw [hplus, hminus]; rfl, hnext⟩
    · have hsees : c.next.sees '+' = true := Cursor.sees_iff.mpr ⟨_, hnext⟩
      exact ⟨c.next.next, by rw [hsees]; rfl, Cursor.rest_next hnext⟩
    · have hsees : c.next.sees '-' = true := Cursor.sees_iff.mpr ⟨_, hnext⟩
      exact ⟨c.next.next, by rw [hsees, Bool.or_true]; rfl, Cursor.rest_next hnext⟩
  refine ⟨c₁.next.digits.2, ?_, (Cursor.digits_of_run hall hstop (Cursor.rest_next hrest₁)).2⟩
  unfold skipExponent
  dsimp only
  rw [hc₁, hrest₁]
  exact if_pos hd

private theorem skipPower_complete {x : Bytes} (hx : Exponent x) (hends : Ends rest)
    (hrest : c.rest = x ++ rest) :
    ∃ c', (if c.sees 'e' || c.sees 'E' then skipExponent c else .ok c) = .ok c' ∧
      c'.rest = rest := by
  cases hx with
  | none =>
      have hstops : ∀ b ∈ c.rest.head?, b ≠ ascii 'e' ∧ b ≠ ascii 'E' := by
        rw [hrest]
        exact fun b hb => (hends.stops b hb).2.2
      have hlower : c.sees 'e' = false := Cursor.sees_false fun b hb => (hstops b hb).1
      have hupper : c.sees 'E' = false := Cursor.sees_false fun b hb => (hstops b hb).2
      exact ⟨c, by rw [hlower, hupper]; rfl, hrest⟩
  | @power e sign ds he hsign hds =>
      have hsees : (c.sees 'e' || c.sees 'E') = true := by
        rw [Bool.or_eq_true_iff]
        exact he.imp (fun h => Cursor.sees_iff.mpr ⟨_, h ▸ hrest⟩)
          fun h => Cursor.sees_iff.mpr ⟨_, h ▸ hrest⟩
      rw [hsees]
      exact skipExponent_complete (e := e) hsign hds (fun b hb => (hends.stops b hb).1)
        (hrest.trans (congrArg (e :: ·) (List.append_assoc sign ds rest)))

/-- What stands behind the digits of an integer is no digit. -/
private theorem tail_stops {f x : Bytes} (hf : Fraction f) (hx : Exponent x) (hends : Ends rest) :
    ∀ b ∈ (f ++ (x ++ rest)).head?, isDigit b = false := by
  intro b hb
  cases hf with
  | none =>
      cases hx with
      | none => exact (hends.stops b hb).1
      | power he _ _ =>
          cases hb
          rcases he with rfl | rfl <;> decide
  | point _ =>
      cases hb
      decide

private theorem skipTail_complete {f x : Bytes} (hf : Fraction f) (hx : Exponent x)
    (hends : Ends rest) (hrest : c.rest = f ++ (x ++ rest)) :
    ∃ c', (if c.sees '.' then skipFraction c
      else if c.sees 'e' || c.sees 'E' then skipExponent c else .ok c) = .ok c' ∧
        c'.rest = rest := by
  cases hf with
  | none =>
      have hpoint : c.sees '.' = false := by
        refine Cursor.sees_false fun b hb => ?_
        rw [hrest] at hb
        cases hx with
        | none => exact (hends.stops b hb).2.1
        | power he _ _ =>
            cases hb
            rcases he with rfl | rfl <;> decide
      rw [hpoint]
      exact skipPower_complete hx hends hrest
  | @point ds hds =>
      have hsees : c.sees '.' = true := Cursor.sees_iff.mpr ⟨_, hrest⟩
      obtain ⟨hrun, hafter⟩ := Cursor.digits_of_run hds.2
        (tail_stops .none hx hends) (Cursor.rest_next hrest)
      obtain ⟨c₁, hpower, hrest₁⟩ := skipPower_complete hx hends hafter
      refine ⟨c₁, ?_, hrest₁⟩
      rw [hsees, if_pos rfl]
      unfold skipFraction
      dsimp only
      rw [hrun, if_neg (fun h => hds.1 (List.isEmpty_iff.mp h))]
      exact hpower

theorem skipUnsigned_complete {i f x : Bytes} (hi : Integer i) (hf : Fraction f)
    (hx : Exponent x) (hends : Ends rest) (hrest : c.rest = i ++ (f ++ (x ++ rest))) :
    ∃ c', skipUnsigned c = .ok c' ∧ c'.rest = rest := by
  have hstop := tail_stops hf hx hends
  rcases hi.cases with rfl | ⟨d, tail, rfl, hzero, hd⟩
  · -- A zero stands alone: the reader looks for a digit behind it and finds none.
    have hnext := Cursor.rest_next hrest
    obtain ⟨c₁, htail, hrest₁⟩ := skipTail_complete hf hx hends hnext
    have hpeek : ¬((c.next.peek.map isDigit).getD false = true) := by
      have hhead : c.next.peek = (f ++ (x ++ rest)).head? := congrArg List.head? hnext
      rw [hhead]
      cases hfirst : (f ++ (x ++ rest)).head? with
      | none => exact Bool.false_ne_true
      | some b => exact Bool.eq_false_iff.mp (hstop b hfirst)
    refine ⟨c₁, ?_, hrest₁⟩
    unfold skipUnsigned
    rw [hrest]
    dsimp only [List.cons_append]
    rw [if_neg (fun h => hpeek (Bool.and_eq_true_iff.mp h).2), if_pos (by decide), if_pos rfl]
    exact htail
  · obtain ⟨-, hafter⟩ := Cursor.digits_of_run hi.1.2 hstop hrest
    obtain ⟨c₁, htail, hrest₁⟩ := skipTail_complete hf hx hends hafter
    refine ⟨c₁, ?_, hrest₁⟩
    unfold skipUnsigned
    rw [hrest]
    dsimp only [List.cons_append]
    rw [if_neg (fun h => hzero (of_decide_eq_true (Bool.and_eq_true_iff.mp h).1)), if_pos hd,
      if_neg hzero]
    exact htail

theorem skipNumeral_complete {source : Bytes} (h : Number source) (hends : Ends rest)
    (hrest : c.rest = source ++ rest) : ∃ c', skipNumeral c = .ok c' ∧ c'.rest = rest := by
  unfold skipNumeral
  cases h with
  | @positive i f x hi hf hx =>
      have hsees : c.sees '-' = false := by
        obtain ⟨d, tail, rfl, hd, -⟩ := hi.1.cases
        exact sees_of_digit hd hrest (by decide)
      rw [hsees, if_neg Bool.false_ne_true]
      exact skipUnsigned_complete hi hf hx hends (hrest.trans (by simp))
  | @negative i f x hi hf hx =>
      have hsees : c.sees '-' = true := Cursor.sees_iff.mpr ⟨_, hrest⟩
      rw [hsees, if_pos rfl]
      exact skipUnsigned_complete hi hf hx hends ((Cursor.rest_next hrest).trans (by simp))

/-! ## Numbers that are read -/

/-- What is read as a floating point number is no natural one. -/
private theorem finishFloat_ne {negative : Bool} {m n : Nat} {e : Int} :
    finishFloat negative m e c ≠ .ok (.natural n, c') := by
  unfold finishFloat
  split
  · exact nofun
  · exact nofun

private theorem exponentDigits_ne {negative positive : Bool} {m n e : Nat} {start : Int}
    {ds : List UInt8} : exponentDigits negative m start positive e ds c ≠ .ok (.natural n, c') := by
  induction ds generalizing e c with
  | nil => exact finishFloat_ne
  | cons d ds ih =>
      rw [exponentDigits]
      split
      · exact ih
      · split <;> exact nofun

private theorem readExponent_ne {negative : Bool} {m n : Nat} {start : Int} :
    readExponent negative m start c ≠ .ok (.natural n, c') := by
  unfold readExponent
  dsimp only
  split
  · exact nofun
  · split
    · exact exponentDigits_ne
    · exact nofun

private theorem readFraction_ne {negative : Bool} {m n : Nat} {start : Int} :
    readFraction negative m start c ≠ .ok (.natural n, c') := by
  unfold readFraction
  dsimp only
  split
  · split <;> exact nofun
  · split
    · exact readExponent_ne
    · exact finishFloat_ne

/-- A natural number has nothing behind its digits, and all of them fit. -/
private theorem afterInteger_natural {negative : Bool} {m left n : Nat}
    (h : afterInteger negative m left c = .ok (.natural n, c')) :
    negative = false ∧ left = 0 ∧ n = m ∧ c' = c := by
  unfold afterInteger at h
  split at h
  · exact absurd h readFraction_ne
  split at h
  · exact absurd h readExponent_ne
  split at h
  · exact absurd h finishFloat_ne
  rename_i hleft
  split at h
  · rename_i hnegative
    cases h
    exact ⟨by simpa using hnegative, by omega, rfl, rfl⟩
  · split at h <;> cases h

/-- The value of digits behind those of a number. -/
private def decimalFrom (n : Nat) (ds : Bytes) : Nat :=
  ds.foldl (fun n d => n * 10 + digitValue d) n

private theorem le_decimalFrom (n : Nat) (ds : Bytes) : n ≤ decimalFrom n ds := by
  induction ds generalizing n with
  | nil => exact Nat.le_refl n
  | cons d ds ih => exact Nat.le_trans (by omega) (ih (n * 10 + digitValue d))

/-- Nothing is left over if and only if the value of all digits fits. -/
private theorem accumulate_eq {n : Nat} (hn : n < 2 ^ 64) (ds : Bytes) {m : Nat} :
    accumulate n ds = (m, 0) ↔ m = decimalFrom n ds ∧ m < 2 ^ 64 := by
  induction ds generalizing n with
  | nil =>
      refine ⟨fun h => ?_, fun h => ?_⟩
      · cases h
        exact ⟨rfl, hn⟩
      · rw [h.1]
        rfl
  | cons d ds ih =>
      rw [accumulate]
      split
      · rename_i hfits
        exact ih hfits
      · rename_i hlarge
        have hle := le_decimalFrom (n * 10 + digitValue d) ds
        refine iff_of_false (fun h => ?_) fun ⟨heq, hm⟩ => ?_
        · exact Nat.succ_ne_zero _ (Prod.mk.inj h).2
        · rw [heq] at hm
          exact hlarge (Nat.lt_of_le_of_lt hle hm)

theorem readNumeral_sound {n : Nat} (h : readNumeral c = .ok (.natural n, c')) :
    ∃ ds, c.rest = ds ++ c'.rest ∧ Integer ds ∧ decimal ds = n ∧ n < 2 ^ 64 := by
  -- Behind a minus sign no numeral is natural, so the sign goes into the statement.
  have hunsigned {negative : Bool} {c : Cursor}
      (h : readUnsigned negative c = .ok (.natural n, c')) : negative = false ∧
        ∃ ds, c.rest = ds ++ c'.rest ∧ Integer ds ∧ decimal ds = n ∧ n < 2 ^ 64 := by
    have hzero {tail : Bytes} (hrest : c.rest = ascii '0' :: tail)
        (h : afterInteger negative 0 0 c.next = .ok (.natural n, c')) : negative = false ∧
          ∃ ds, c.rest = ds ++ c'.rest ∧ Integer ds ∧ decimal ds = n ∧ n < 2 ^ 64 := by
      obtain ⟨hpositive, -, rfl, rfl⟩ := afterInteger_natural h
      exact ⟨hpositive, [ascii '0'], by rw [hrest, Cursor.rest_next hrest]; rfl, integer_zero,
        rfl, by decide⟩
    unfold readUnsigned at h
    split at h
    · cases h
    rename_i d tail hrest
    split at h
    · rename_i hd
      split at h
      · split at h
        · cases h
        · exact hzero (hd ▸ hrest) h
      · exact hzero (hd ▸ hrest) h
    rename_i hd
    split at h
    · rename_i hdigit
      dsimp only at h
      obtain ⟨hpositive, hleft, rfl, rfl⟩ := afterInteger_natural h
      obtain ⟨hvalue, hfits⟩ := (accumulate_eq (n := 0) (by decide) c.digits.1).mp
        (Prod.snd_eq_iff.mp hleft)
      exact ⟨hpositive, c.digits.1, c.digits_split.1, integer_digits hrest hdigit hd,
        hvalue.symm, hfits⟩
    · cases h
  unfold readNumeral at h
  split at h
  · exact nomatch (hunsigned h).1
  · exact (hunsigned h).2

theorem readNumeral_complete {ds : Bytes} (hds : Integer ds) (hfits : decimal ds < 2 ^ 64)
    (hends : Ends rest) (hrest : c.rest = ds ++ rest) :
    ∃ c', readNumeral c = .ok (.natural (decimal ds), c') ∧ c'.rest = rest := by
  -- Nothing follows the digits that would make the number a fraction.
  have hafter {c : Cursor} (hrest : c.rest = rest) :
      afterInteger false (decimal ds) 0 c = .ok (.natural (decimal ds), c) := by
    have hstops : ∀ b ∈ c.rest.head?, b ≠ ascii '.' ∧ b ≠ ascii 'e' ∧ b ≠ ascii 'E' := by
      rw [hrest]
      exact fun b hb => (hends.stops b hb).2
    unfold afterInteger
    rw [Cursor.sees_false fun b hb => (hstops b hb).1,
      Cursor.sees_false fun b hb => (hstops b hb).2.1,
      Cursor.sees_false fun b hb => (hstops b hb).2.2]
    rfl
  have hsign : c.sees '-' = false := by
    obtain ⟨d, tail, rfl, hd, -⟩ := hds.1.cases
    exact sees_of_digit hd hrest (by decide)
  unfold readNumeral
  rw [hsign, if_neg Bool.false_ne_true]
  rcases hds.cases with rfl | ⟨d, tail, rfl, hzero, hd⟩
  · have hnext := Cursor.rest_next hrest
    refine ⟨c.next, ?_, hnext⟩
    unfold readUnsigned
    rw [hrest]
    dsimp only [List.cons_append]
    rw [if_pos rfl]
    cases hpeek : c.next.peek with
    | none => exact hafter hnext
    | some b =>
        have hb := (hends.stops b (by rw [Cursor.peek, hnext] at hpeek; exact hpeek)).1
        dsimp only
        rw [hb, if_neg Bool.false_ne_true]
        exact hafter hnext
  · obtain ⟨hrun, hnext⟩ := Cursor.digits_of_run hds.1.2 (fun b hb => (hends.stops b hb).1) hrest
    refine ⟨c.digits.2, ?_, hnext⟩
    unfold readUnsigned
    rw [hrest]
    dsimp only [List.cons_append]
    rw [if_neg hzero, if_pos hd, hrun,
      (accumulate_eq (n := 0) (by decide) (d :: tail)).mpr ⟨rfl, hfits⟩]
    exact hafter hnext

end ScriptHost.Config
