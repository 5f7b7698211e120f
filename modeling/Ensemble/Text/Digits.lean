/-
# Digits

Numbers with a fixed number of decimal or hexadecimal digits, and reading digits from the front
of a text.
-/

namespace Ensemble.Text

/-- The value of a hexadecimal digit. -/
def hexDigit? (c : Char) : Option Nat :=
  if '0' ≤ c ∧ c ≤ '9' then some (c.toNat - '0'.toNat)
  else if 'a' ≤ c ∧ c ≤ 'f' then some (c.toNat - 'a'.toNat + 10)
  else if 'A' ≤ c ∧ c ≤ 'F' then some (c.toNat - 'A'.toNat + 10)
  else none

/-- A hexadecimal digit, with small letters. -/
def hexDigit (digit : Nat) : Char :=
  if digit < 10 then Char.ofNat ('0'.toNat + digit) else Char.ofNat ('a'.toNat + (digit - 10))

/-- The last `width` digits of a number in a base up to sixteen. -/
def fixedDigits (base : Nat) : Nat → Nat → List Char
  | 0, _ => []
  | width + 1, number => fixedDigits base width (number / base) ++ [hexDigit (number % base)]

/-- The value of a decimal digit. -/
def decimalDigit? (c : Char) : Option Nat :=
  if c.isDigit then some (c.toNat - '0'.toNat) else none

/-- The number that hexadecimal digits write, on top of what was read before. -/
def readHex (start : Nat) : List Char → Option Nat
  | [] => some start
  | c :: rest =>
    match hexDigit? c with
    | some digit => readHex (start * 16 + digit) rest
    | none => none

/-- Read at most `limit` decimal digits: the number, how many digits were read, and the rest. -/
def takeNumber (number taken : Nat) : Nat → List Char → Nat × Nat × List Char
  | 0, chars => (number, taken, chars)
  | _ + 1, [] => (number, taken, [])
  | limit + 1, c :: rest =>
    match decimalDigit? c with
    | some digit => takeNumber (number * 10 + digit) (taken + 1) limit rest
    | none => (number, taken, c :: rest)

/-- Read between one and `limit` decimal digits. -/
def readNumber? (limit : Nat) (chars : List Char) : Option (Nat × List Char) :=
  match takeNumber 0 0 limit chars with
  | (_, 0, _) => none
  | (number, _, rest) => some (number, rest)

end Ensemble.Text
