import Mathlib

/-!
# Decimal digits

The digits of a number, as characters: they are digits, none of them is a zero in front, and
zeros behind them are those of a power of ten.
-/

namespace ScriptHost

variable {n : Nat}

theorem isDigit_toDigits (n : Nat) : ∀ c ∈ Nat.toDigits 10 n, c.isDigit = true :=
  fun _ hc => Nat.isDigit_of_mem_toDigits (by decide) (by decide) hc

theorem isDigit_zeros (n : Nat) : ∀ c ∈ List.replicate n '0', c.isDigit = true := by
  intro c hc
  rw [List.eq_of_mem_replicate hc]
  rfl

theorem isDigit_append {cs ds : List Char} (hc : ∀ c ∈ cs, c.isDigit = true)
    (hd : ∀ c ∈ ds, c.isDigit = true) : ∀ c ∈ cs ++ ds, c.isDigit = true :=
  fun c h => (List.mem_append.mp h).elim (hc c) (hd c)

/-- No zero stands in front, except for that of zero. -/
theorem toDigits_head (h : (Nat.toDigits 10 n).head? = some '0') : Nat.toDigits 10 n = ['0'] := by
  induction n using Nat.strongRecOn with
  | ind n ih =>
      by_cases hn : n < 10
      · rw [Nat.toDigits_of_lt_base hn] at h ⊢
        exact congrArg ([·]) (Option.some.inj h)
      · have hle : 10 ≤ n := Nat.le_of_not_lt hn
        rw [Nat.toDigits_of_base_le (by decide) hle,
          List.head?_append_of_ne_nil _ Nat.toDigits_ne_nil] at h
        -- the digits in front of the last one are those of a smaller number, which is not zero
        have hzero := ih (n / 10) (Nat.div_lt_self (by omega) (by decide)) h
        have hvalue : Nat.ofDigitChars 10 (Nat.toDigits 10 (n / 10)) 0 = n / 10 :=
          Nat.ofDigitChars_ten_toDigits
        rw [hzero] at hvalue
        have hnone : 0 = n / 10 := hvalue
        omega

/-- A number other than zero is not written with a zero in front. -/
theorem toDigits_head_ne (hn : n ≠ 0) : (Nat.toDigits 10 n).head? ≠ some '0' := by
  intro h
  have hvalue : Nat.ofDigitChars 10 (Nat.toDigits 10 n) 0 = n := Nat.ofDigitChars_ten_toDigits
  rw [toDigits_head h] at hvalue
  exact hn hvalue.symm

theorem toDigits_mul_pow (hn : n ≠ 0) (k : Nat) :
    Nat.toDigits 10 (n * 10 ^ k) = Nat.toDigits 10 n ++ List.replicate k '0' := by
  induction k with
  | zero => rw [pow_zero, Nat.mul_one, List.replicate_zero, List.append_nil]
  | succ k ih =>
      have hpos : 0 < n * 10 ^ k := Nat.mul_pos (Nat.pos_of_ne_zero hn) (Nat.pow_pos (by decide))
      have hstep := Nat.toDigits_append_toDigits (b := 10) (by decide) hpos (by decide : 0 < 10)
      have hnext : n * 10 ^ (k + 1) = 10 * (n * 10 ^ k) + 0 := by ring
      rw [hnext, ← hstep, ih, List.replicate_succ', List.append_assoc]
      rfl

end ScriptHost
