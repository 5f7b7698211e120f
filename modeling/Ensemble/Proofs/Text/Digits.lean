/-
# Reading written numbers back

A number that is written with a fixed number of digits is read back from them, up to the digits
that do not fit, whatever stands behind it. The shortest writing of a number, filled up with zeros,
is one with a fixed number of digits.
-/

import Ensemble.Text.Blank
import Ensemble.Text.Digits
import Mathlib.Algebra.Group.Nat.Defs

namespace Ensemble.Text

/-! ## Single digits -/

theorem hexDigit?_hexDigit {digit : Nat} (h : digit < 16) :
    hexDigit? (hexDigit digit) = some digit := by
  have hall : ∀ digit : Fin 16, hexDigit? (hexDigit digit) = some digit.val := by decide
  exact hall ⟨digit, h⟩

theorem decimalDigit?_hexDigit {digit : Nat} (h : digit < 10) :
    decimalDigit? (hexDigit digit) = some digit := by
  have hall : ∀ digit : Fin 10, decimalDigit? (hexDigit digit) = some digit.val := by decide
  exact hall ⟨digit, h⟩

theorem digitChar_eq_hexDigit {digit : Nat} (h : digit < 10) :
    digit.digitChar = hexDigit digit := by
  have hall : ∀ digit : Fin 10, digit.val.digitChar = hexDigit digit := by decide
  exact hall ⟨digit, h⟩

/-- A decimal digit is neither a blank nor one of the marks between numbers. -/
theorem hexDigit_plain {digit : Nat} (h : digit < 10) :
    isBlank (hexDigit digit) = false ∧ hexDigit digit ≠ '-' ∧ hexDigit digit ≠ '+' := by
  have hall : ∀ digit : Fin 10, isBlank (hexDigit digit) = false ∧ hexDigit digit ≠ '-' ∧
      hexDigit digit ≠ '+' := by decide
  exact hall ⟨digit, h⟩

/-! ## A fixed number of digits -/

@[simp] theorem length_fixedDigits (base width number : Nat) :
    (fixedDigits base width number).length = width := by
  induction width generalizing number with
  | zero => rfl
  | succ width ih => rw [fixedDigits, List.length_append, ih, List.length_singleton]

/-- The last digit and the others. -/
theorem mod_pow_succ_eq (base width number : Nat) :
    number % base ^ (width + 1) = number / base % base ^ width * base + number % base := by
  rw [Nat.pow_succ, Nat.mul_comm (base ^ width), Nat.mod_mul, Nat.mul_comm base, Nat.add_comm]

theorem readHex_append (start : Nat) (first second : List Char) :
    readHex start (first ++ second) = (readHex start first).bind (readHex · second) := by
  induction first generalizing start with
  | nil => rfl
  | cons c rest ih =>
      rw [List.cons_append, readHex, readHex]
      cases hexDigit? c with
      | none => rfl
      | some digit => exact ih _

/-- Hexadecimal digits are read back. -/
theorem readHex_fixedDigits (start width number : Nat) :
    readHex start (fixedDigits 16 width number) =
      some (start * 16 ^ width + number % 16 ^ width) := by
  induction width generalizing number with
  | zero => simp [fixedDigits, readHex, Nat.mod_one]
  | succ width ih =>
      have hdigit : hexDigit? (hexDigit (number % 16)) = some (number % 16) :=
        hexDigit?_hexDigit (Nat.mod_lt _ (by decide))
      rw [fixedDigits, readHex_append, ih, Option.bind_some, readHex, hdigit]
      simp only [readHex]
      rw [mod_pow_succ_eq, Nat.pow_succ, Nat.add_mul, Nat.mul_assoc, Nat.add_assoc]

/-- Decimal digits are taken as the number that they write. -/
theorem takeNumber_fixedDigits (start taken width more number : Nat) (rest : List Char) :
    takeNumber start taken (width + more) (fixedDigits 10 width number ++ rest) =
      takeNumber (start * 10 ^ width + number % 10 ^ width) (taken + width) more rest := by
  induction width generalizing number more rest with
  | zero => simp [fixedDigits, Nat.mod_one]
  | succ width ih =>
      have hdigit : decimalDigit? (hexDigit (number % 10)) = some (number % 10) :=
        decimalDigit?_hexDigit (Nat.mod_lt _ (by decide))
      rw [fixedDigits, List.append_assoc, Nat.add_assoc, Nat.add_comm 1, ih, List.singleton_append,
        takeNumber, hdigit]
      simp only
      rw [mod_pow_succ_eq, Nat.pow_succ, Nat.add_mul, Nat.mul_assoc, Nat.add_assoc, Nat.add_assoc]

/-- A text in which no number goes on. -/
def EndsNumber (rest : List Char) : Prop :=
  ∀ c, rest.head? = some c → decimalDigit? c = none

theorem takeNumber_of_endsNumber {rest : List Char} (h : EndsNumber rest)
    (number taken limit : Nat) :
    takeNumber number taken limit rest = (number, taken, rest) := by
  cases limit with
  | zero => rfl
  | succ limit =>
      cases rest with
      | nil => rfl
      | cons c rest => rw [takeNumber, h c rfl]

/-- A number with as many digits as may be read is read back, whatever stands behind it. -/
theorem readNumber?_fixedDigits (width number : Nat) (rest : List Char) :
    readNumber? (width + 1) (fixedDigits 10 (width + 1) number ++ rest) =
      some (number % 10 ^ (width + 1), rest) := by
  have htaken := takeNumber_fixedDigits 0 0 (width + 1) 0 number rest
  rw [Nat.zero_mul, Nat.zero_add, Nat.zero_add, Nat.add_zero] at htaken
  rw [readNumber?, htaken]
  rfl

/-- A number is read back, and no more, when something else stands behind it. -/
theorem readNumber?_of_endsNumber {rest : List Char} (h : EndsNumber rest)
    (width more number : Nat) :
    readNumber? (width + 1 + more) (fixedDigits 10 (width + 1) number ++ rest) =
      some (number % 10 ^ (width + 1), rest) := by
  have htaken := takeNumber_fixedDigits 0 0 (width + 1) more number rest
  rw [Nat.zero_mul, Nat.zero_add, Nat.zero_add, takeNumber_of_endsNumber h] at htaken
  rw [readNumber?, htaken]
  rfl

/-! ## The fewest digits -/

theorem fixedDigits_zero (width : Nat) : fixedDigits 10 width 0 = List.replicate width '0' := by
  induction width with
  | zero => rfl
  | succ width ih =>
      rw [fixedDigits, Nat.zero_div, ih, List.replicate_succ']
      rfl

/-- The fewest digits of a number, filled up with zeros. -/
theorem fixedDigits_eq_toDigits {width number : Nat}
    (h : (Nat.toDigits 10 number).length ≤ width) :
    fixedDigits 10 width number =
      List.replicate (width - (Nat.toDigits 10 number).length) '0' ++ Nat.toDigits 10 number := by
  induction width generalizing number with
  | zero => exact absurd h (Nat.not_le.2 Nat.length_toDigits_pos)
  | succ width ih =>
      rw [fixedDigits]
      by_cases hsmall : number < 10
      · rw [Nat.toDigits_of_lt_base hsmall, Nat.div_eq_of_lt hsmall, Nat.mod_eq_of_lt hsmall,
          fixedDigits_zero, digitChar_eq_hexDigit hsmall]
        rfl
      · have hdigits := Nat.toDigits_of_base_le (by decide : 1 < 10) (Nat.not_lt.1 hsmall)
        rw [hdigits, List.length_append, List.length_singleton] at h ⊢
        rw [ih (Nat.le_of_succ_le_succ h), digitChar_eq_hexDigit (Nat.mod_lt _ (by decide)),
          Nat.add_sub_add_right, List.append_assoc]

end Ensemble.Text
