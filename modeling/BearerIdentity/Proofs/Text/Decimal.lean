import BearerIdentity.Text.Ascii
import Mathlib.Data.List.Induction

set_option autoImplicit false

namespace BearerIdentity.Ascii

theorem isDigit_iff (c : Char) : isDigit c = true ↔ 48 ≤ c.toNat ∧ c.toNat ≤ 57 := by
  have order (c d : Char) : c ≤ d ↔ c.toNat ≤ d.toNat := Iff.rfl
  simp only [isDigit, Bool.and_eq_true, decide_eq_true_eq, order]
  exact Iff.rfl

theorem digitChar_of_isDigit {c : Char} (digit : isDigit c = true) : Nat.digitChar (c.toNat - 48) = c := by
  obtain ⟨low, high⟩ := (isDigit_iff c).mp digit
  apply Char.toNat_inj.mp
  rw [Nat.toNat_digitChar_of_lt_ten (by omega)]
  omega

theorem all_isDigit_toDigits (number : Nat) : (Nat.toDigits 10 number).all isDigit = true := by
  rw [List.all_eq_true]
  exact fun c member => Nat.isDigit_of_mem_toDigits (by decide) (by decide) member

theorem decimal_toDigits (number : Nat) : decimal (Nat.toDigits 10 number) = number := by
  conv_rhs => rw [← Nat.ofDigitChars_ten_toDigits (n := number)]
  simp only [decimal, Nat.ofDigitChars, Nat.mul_comm]
  rfl

theorem decimal_append_digit (digits : List Char) (digit : Char) :
    decimal (digits ++ [digit]) = decimal digits * 10 + (digit.toNat - 48) := by
  rw [decimal, List.foldl_append]
  rfl

/-- Zeros in front do not count. -/
theorem decimal_zeros_append (zeros : Nat) (digits : List Char) :
    decimal (List.replicate zeros '0' ++ digits) = decimal digits := by
  induction zeros with
  | zero => rfl
  | succ zeros same => exact same

theorem toDigits_digit {digit : Char} (known : isDigit digit = true) :
    Nat.toDigits 10 (digit.toNat - 48) = [digit] := by
  obtain ⟨low, high⟩ := (isDigit_iff digit).mp known
  rw [Nat.toDigits_of_lt_base (by omega), digitChar_of_isDigit known]

/-- One more digit, behind a number that is not zero. -/
theorem toDigits_append_digit {number : Nat} (positive : 0 < number) {digit : Char}
    (known : isDigit digit = true) :
    Nat.toDigits 10 number ++ [digit] = Nat.toDigits 10 (number * 10 + (digit.toNat - 48)) := by
  obtain ⟨low, high⟩ := (isDigit_iff digit).mp known
  rw [← toDigits_digit known, Nat.toDigits_append_toDigits (by decide) positive (by omega), Nat.mul_comm]

/-- Digits are zeros, and then the text of the number that they stand for. -/
theorem exists_zeros {digits : List Char} (filled : digits ≠ []) (known : digits.all isDigit = true) :
    ∃ zeros, digits = List.replicate zeros '0' ++ Nat.toDigits 10 (decimal digits) := by
  induction digits using List.reverseRecOn with
  | nil => exact absurd rfl filled
  | append_singleton digits digit shorter =>
    obtain ⟨others, last⟩ : digits.all isDigit = true ∧ isDigit digit = true := by
      simpa using known
    rw [decimal_append_digit]
    by_cases none : digits = []
    · subst none
      refine ⟨0, ?_⟩
      simp [decimal, toDigits_digit last]
    obtain ⟨zeros, spelled⟩ := shorter none others
    rcases Nat.eq_zero_or_pos (decimal digits) with zero | positive
    · -- What precedes the digit are zeros only, and the zero of the number is one more of them.
      refine ⟨zeros + 1, ?_⟩
      rw [zero] at spelled ⊢
      rw [spelled, Nat.zero_mul, Nat.zero_add, toDigits_digit last, List.replicate_succ']
      rfl
    · refine ⟨zeros, ?_⟩
      rw [← toDigits_append_digit positive last, ← List.append_assoc, ← spelled]

end BearerIdentity.Ascii
