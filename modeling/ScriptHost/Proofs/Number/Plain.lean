import Mathlib
import ScriptHost.Number.Layout
import ScriptHost.Proofs.Number.Digits
import ScriptHost.Proofs.Number.Shortest

/-!
# Plain decimals

A number without an exponent is a sign, digits, and behind a point more digits if there are any.
As a structure it carries what makes it well formed, so that two plain decimals with one text
are the same (`PlainDecimal.text_injective`): the sign and the point are no digits, and they are
the only places where a text can be cut.

The positional layout writes such a decimal for every decimal but zero, in one of three shapes:
zeros behind the digits, the point among them, or zeros in front of them
(`PlainDecimal.exists_positional`).
-/

namespace ScriptHost

/-- A number in plain notation. -/
@[ext] structure PlainDecimal where
  negative : Bool
  whole : List Char
  fraction : List Char
  whole_digits : ∀ c ∈ whole, c.isDigit = true
  fraction_digits : ∀ c ∈ fraction, c.isDigit = true
  whole_ne_nil : whole ≠ []
  /-- A zero in front stands alone. -/
  leading : ∀ rest, whole = '0' :: rest → rest = []

namespace PlainDecimal

/-- What stands behind the whole part. -/
def tail (p : PlainDecimal) : List Char := if p.fraction = [] then [] else '.' :: p.fraction

/-- The characters of a plain decimal. -/
def text (p : PlainDecimal) : String :=
  String.ofList ((if p.negative then ['-'] else []) ++ (p.whole ++ p.tail))

/-- The decimal that is left of it without its sign. -/
def decimal (p : PlainDecimal) : Decimal :=
  ⟨Nat.ofDigitChars 10 (p.whole ++ p.fraction) 0, -(p.fraction.length : Int)⟩

/-- The number that it stands for. -/
def value (p : PlainDecimal) : ℚ := (if p.negative then -1 else 1) * p.decimal.value

variable {p q : PlainDecimal} {d : Decimal}

/-! ## Cutting a text -/

theorem takeWhile_whole (p : PlainDecimal) :
    (p.whole ++ p.tail).takeWhile Char.isDigit = p.whole := by
  rw [List.takeWhile_append_of_pos p.whole_digits, tail]
  split
  · rw [List.takeWhile_nil, List.append_nil]
  · exact List.append_nil _

theorem dropWhile_whole (p : PlainDecimal) :
    (p.whole ++ p.tail).dropWhile Char.isDigit = p.tail := by
  rw [List.dropWhile_append_of_pos p.whole_digits, tail]
  split <;> rfl

theorem drop_tail (p : PlainDecimal) : p.tail.drop 1 = p.fraction := by
  unfold tail
  split
  · next h => rw [h]; rfl
  · rfl

/-- The character in front of a number is a digit. -/
theorem exists_digit (p : PlainDecimal) :
    ∃ c rest, p.whole ++ p.tail = c :: rest ∧ c.isDigit = true := by
  obtain ⟨c, rest, hwhole⟩ := List.exists_cons_of_ne_nil p.whole_ne_nil
  refine ⟨c, rest ++ p.tail, by rw [hwhole, List.cons_append], p.whole_digits c ?_⟩
  rw [hwhole]
  exact List.mem_cons_self

theorem text_injective (h : p.text = q.text) : p = q := by
  have hchars := String.ofList_injective h
  obtain ⟨c, crest, hc, hcdigit⟩ := p.exists_digit
  obtain ⟨e, erest, he, hedigit⟩ := q.exists_digit
  have hminus {c : Char} (hdigit : c.isDigit = true) : '-' ≠ c := by
    rintro rfl
    cases hdigit
  have hboth : p.negative = q.negative ∧ p.whole ++ p.tail = q.whole ++ q.tail := by
    rw [hc, he] at hchars ⊢
    cases hp : p.negative <;> cases hq : q.negative <;> rw [hp, hq] at hchars
    · exact ⟨rfl, hchars⟩
    · exact absurd (List.cons.inj hchars).1.symm (hminus hcdigit)
    · exact absurd (List.cons.inj hchars).1 (hminus hedigit)
    · exact ⟨rfl, (List.cons.inj hchars).2⟩
  obtain ⟨hsign, hbody⟩ := hboth
  have hwhole : p.whole = q.whole := by rw [← p.takeWhile_whole, hbody, q.takeWhile_whole]
  have htail : p.tail = q.tail := by rw [← p.dropWhile_whole, hbody, q.dropWhile_whole]
  exact PlainDecimal.ext hsign hwhole (by rw [← p.drop_tail, htail, q.drop_tail])

/-- What is not a digit is in a number only as its sign or its point. -/
theorem not_mem_text (p : PlainDecimal) {c : Char} (hdigit : c.isDigit = false) (hminus : c ≠ '-')
    (hpoint : c ≠ '.') : c ∉ p.text.toList := by
  have hnot {cs : List Char} (hcs : ∀ e ∈ cs, e.isDigit = true) : c ∉ cs := by
    intro hmem
    rw [hcs c hmem] at hdigit
    cases hdigit
  have htail : c ∉ p.tail := by
    unfold tail
    split
    · exact List.not_mem_nil
    · exact List.not_mem_cons_of_ne_of_not_mem hpoint (hnot p.fraction_digits)
  have hsign : c ∉ if p.negative then ['-'] else [] := by
    split
    · exact List.not_mem_cons_of_ne_of_not_mem hminus List.not_mem_nil
    · exact List.not_mem_nil
  rw [text, String.toList_ofList, List.mem_append, List.mem_append, not_or, not_or]
  exact ⟨hsign, hnot p.whole_digits, htail⟩

/-- A word is no number, also with a sign in front. -/
theorem text_ne_word (p : PlainDecimal) (negative : Bool) {c : Char} {cs : List Char}
    (hdigit : c.isDigit = false) (hminus : c ≠ '-') :
    p.text ≠ (if negative then "-" else "") ++ String.ofList (c :: cs) := by
  intro h
  have hword : (if negative then "-" else "") ++ String.ofList (c :: cs) =
      String.ofList ((if negative then ['-'] else []) ++ c :: cs) := by
    rw [String.ofList_append]
    cases negative <;> rfl
  rw [hword] at h
  have hchars := String.ofList_injective h
  obtain ⟨e, rest, he, hedigit⟩ := p.exists_digit
  have hne : e ≠ c := by
    rintro rfl
    rw [hdigit] at hedigit
    cases hedigit
  rw [he] at hchars
  cases hp : p.negative <;> cases negative <;> rw [hp] at hchars
  · exact hne (List.cons.inj hchars).1
  · rw [(List.cons.inj hchars).1] at hedigit
    cases hedigit
  · exact hminus (List.cons.inj hchars).1.symm
  · exact hne (List.cons.inj (List.cons.inj hchars).2).1

/-! ## The positional layout -/

/-- Digits with as many zeros behind them as the exponent says. -/
theorem positional_integral (h : 0 ≤ d.exponent) : Layout.positional false d =
    String.ofList (Nat.toDigits 10 d.digits ++ List.replicate d.exponent.toNat '0') := by
  apply String.toList_injective
  unfold Layout.positional
  rw [if_pos h]
  change (_ ++ String.ofList (List.replicate d.exponent.toNat '0') ++ "").toList = _
  simp

/-- Digits on both sides of the point. -/
theorem positional_split {k : Nat} (h : d.exponent = -(k : Int)) (hk : 0 < k) (hlt : k < d.length) :
    Layout.positional false d = String.ofList
      ((Nat.toDigits 10 d.digits).take (d.length - k) ++
        '.' :: (Nat.toDigits 10 d.digits).drop (d.length - k)) := by
  apply String.toList_injective
  unfold Layout.positional
  rw [if_neg (by omega), if_pos (by rw [h, neg_neg, Int.toNat_natCast]; exact hlt)]
  rw [h, neg_neg, Int.toNat_natCast, Nat.toList_repr]
  simp [Decimal.length]

/-- A zero, the point, and zeros in front of the digits. -/
theorem positional_small {k : Nat} (h : d.exponent = -(k : Int)) (hk : 0 < k) (hle : d.length ≤ k) :
    Layout.positional false d = String.ofList
      ('0' :: '.' :: (List.replicate (k - d.length) '0' ++ Nat.toDigits 10 d.digits)) := by
  apply String.toList_injective
  unfold Layout.positional
  rw [if_neg (by omega), if_neg (by rw [h, neg_neg, Int.toNat_natCast]; exact not_lt.mpr hle)]
  rw [h, neg_neg, Int.toNat_natCast]
  change ("0." ++ String.ofList (List.replicate (k - d.length) '0') ++ d.digits.repr).toList = _
  simp

/-- A text with a sign in front is that of a plain decimal. -/
def Spells (negative : Bool) (s : String) (v : ℚ) : Prop :=
  ∃ p : PlainDecimal, p.negative = negative ∧
    p.text = (if negative then "-" else "") ++ s ∧ p.decimal.value = v

section Shapes

variable {negative : Bool} {w f : List Char} {v : ℚ} {k : Nat}

private theorem spells_whole (hw : ∀ c ∈ w, c.isDigit = true) (hne : w ≠ [])
    (hleading : ∀ rest, w = '0' :: rest → rest = [])
    (hvalue : (Nat.ofDigitChars 10 w 0 : ℚ) = v) :
    Spells negative (String.ofList w) v := by
  refine ⟨⟨negative, w, [], hw, fun c hc => absurd hc List.not_mem_nil, hne, hleading⟩,
    rfl, ?_, ?_⟩
  · rw [text, String.ofList_append]
    change _ ++ String.ofList (w ++ []) = _
    rw [List.append_nil]
    cases negative <;> rfl
  · change (Nat.ofDigitChars 10 (w ++ []) 0 : ℚ) * 10 ^ (-0 : Int) = v
    rw [List.append_nil, neg_zero, zpow_zero, mul_one, hvalue]

private theorem spells_point (hw : ∀ c ∈ w, c.isDigit = true) (hne : w ≠ [])
    (hleading : ∀ rest, w = '0' :: rest → rest = [])
    (hf : ∀ c ∈ f, c.isDigit = true) (hlength : f.length = k) (hk : 0 < k)
    (hvalue : (Nat.ofDigitChars 10 (w ++ f) 0 : ℚ) * 10 ^ (-(k : Int)) = v) :
    Spells negative (String.ofList (w ++ '.' :: f)) v := by
  refine ⟨⟨negative, w, f, hw, hf, hne, hleading⟩, rfl, ?_, ?_⟩
  · have htail : f ≠ [] := List.ne_nil_of_length_pos (hlength ▸ hk)
    rw [text, tail, if_neg htail, String.ofList_append]
    cases negative <;> rfl
  · rw [← hlength] at hvalue
    exact hvalue

private theorem length_toDigits (d : Decimal) : (Nat.toDigits 10 d.digits).length = d.length := by
  rw [← Nat.toList_repr]
  rfl

private theorem not_leading {cs : List Char} (h : cs.head? ≠ some '0') (rest : List Char)
    (hcs : cs = '0' :: rest) : rest = [] :=
  absurd (congrArg List.head? hcs) h

theorem spells_zero : Spells false "0" 0 :=
  spells_whole (w := ['0']) (isDigit_zeros 1) (List.cons_ne_nil _ _)
    (fun _ h => (List.cons.inj h).2.symm) Nat.cast_zero

private theorem spells_integral (hd : d.digits ≠ 0) (h : 0 ≤ d.exponent) :
    Spells negative (Layout.positional false d) d.value := by
  rw [positional_integral h, ← toDigits_mul_pow hd]
  refine spells_whole (isDigit_toDigits _) Nat.toDigits_ne_nil
    (not_leading (toDigits_head_ne (Nat.mul_ne_zero hd (by positivity)))) ?_
  rw [Nat.ofDigitChars_ten_toDigits, Decimal.value]
  conv_rhs => rw [← Int.toNat_of_nonneg h, zpow_natCast]
  push_cast
  rfl

private theorem spells_split (hd : d.digits ≠ 0) (h : d.exponent = -(k : Int)) (hk : 0 < k)
    (hlt : k < d.length) : Spells negative (Layout.positional false d) d.value := by
  rw [positional_split h hk hlt]
  have hdigits := isDigit_toDigits d.digits
  have hlength := length_toDigits d
  refine spells_point (fun c hc => hdigits c (List.mem_of_mem_take hc)) ?_ (not_leading ?_)
    (fun c hc => hdigits c (List.mem_of_mem_drop hc)) (by rw [List.length_drop]; omega) hk ?_
  · exact List.ne_nil_of_length_pos (by rw [List.length_take]; omega)
  · rw [List.head?_take, if_neg (by omega)]
    exact toDigits_head_ne hd
  · rw [List.take_append_drop, Nat.ofDigitChars_ten_toDigits, ← h]
    rfl

private theorem spells_small (h : d.exponent = -(k : Int)) (hk : 0 < k) (hle : d.length ≤ k) :
    Spells negative (Layout.positional false d) d.value := by
  rw [positional_small h hk hle]
  refine spells_point (w := ['0']) (isDigit_zeros 1) (List.cons_ne_nil _ _)
    (fun rest hcs => (List.cons.inj hcs).2.symm)
    (isDigit_append (isDigit_zeros _) (isDigit_toDigits _))
    (by rw [List.length_append, List.length_replicate, length_toDigits]; omega) hk ?_
  have hzeros : Nat.ofDigitChars 10 (['0'] ++ List.replicate (k - d.length) '0') 0 = 0 := by
    rw [Nat.ofDigitChars_append, Nat.ofDigitChars_replicate_zero]
    rfl
  rw [← List.append_assoc, Nat.ofDigitChars_append, hzeros, Nat.ofDigitChars_ten_toDigits, ← h]
  rfl

end Shapes

/-- The positional layout writes plain decimals. -/
theorem spells_positional (negative : Bool) (hd : d.digits ≠ 0) :
    Spells negative (Layout.positional false d) d.value := by
  rcases le_or_gt 0 d.exponent with hpos | hneg
  · exact spells_integral hd hpos
  · obtain ⟨k, hk⟩ : ∃ k : Nat, d.exponent = -(k : Int) := ⟨(-d.exponent).toNat, by omega⟩
    rcases lt_or_ge k d.length with hlt | hle
    · exact spells_split hd hk (by omega) hlt
    · exact spells_small hk (by omega) hle

end PlainDecimal

end ScriptHost
