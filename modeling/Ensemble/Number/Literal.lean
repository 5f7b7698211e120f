/-
# Number literals

Decimal literals with an optional sign, point and power of ten, and whole numbers in a base.
-/

import Ensemble.Number.Decimal
import Ensemble.Text.Digits

namespace Ensemble

/-- The number that digits of a base write, on top of what was read before; a digit at least. -/
def readDigits? (base : Nat) (chars : List Char) : Option Nat :=
  if chars.isEmpty then none
  else
    chars.foldlM (fun number c => do
      let digit ← Text.hexDigit? c
      if digit < base then some (number * base + digit) else none) 0

/-- A sign, if there is one, and the characters behind it. -/
def takeSign : List Char → Bool × List Char
  | '-' :: rest => (true, rest)
  | '+' :: rest => (false, rest)
  | chars => (false, chars)

/-- The integer that a sign and digits of a base write. -/
def readInteger? (base : Nat) (chars : List Char) : Option Int := do
  let (negative, digits) := takeSign chars
  let size ← readDigits? base digits
  return if negative then -(size : Int) else size

namespace Decimal

/-- The power of ten behind its mark, if there is one, and nothing else. -/
def readPower? : List Char → Option Int
  | [] => some 0
  | c :: rest => if c = 'e' ∨ c = 'E' then readInteger? 10 rest else none

/-- The decimal that a text without a sign writes: digits, perhaps a point and more digits, and
perhaps a power of ten. -/
def ofChars? (chars : List Char) : Option Decimal := do
  let whole := chars.takeWhile Char.isDigit
  let rest := chars.dropWhile Char.isDigit
  let behind := if rest.head? = some '.' then rest.drop 1 else []
  let fraction := behind.takeWhile Char.isDigit
  let tail := if rest.head? = some '.' then behind.dropWhile Char.isDigit else rest
  let digits ← readDigits? 10 (whole ++ fraction)
  let power ← readPower? tail
  return ⟨digits, power - fraction.length⟩

end Decimal

/-- The float nearest to a signed decimal literal. -/
def Binary.ofLiteral? {format : BinaryFormat} (chars : List Char) : Option (Binary format) := do
  let (negative, size) := takeSign chars
  let decimal ← Decimal.ofChars? size
  return .ofDecimal negative decimal.digits decimal.exponent

end Ensemble
