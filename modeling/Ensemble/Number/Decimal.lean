/-
# Shortest decimals

The shortest decimal of a finite number is the one with the fewest digits that rounds back to
the number, and of those the nearest to it. A style says how such digits are laid out.
-/

import Ensemble.Number.Binary

namespace Ensemble

/-- The decimal `digits * 10 ^ exponent`. -/
structure Decimal where
  digits : Nat
  exponent : Int
deriving DecidableEq, Repr

/-- How the digits of a number are laid out. -/
structure NumberStyle where
  /-- The powers of ten of the first digit for which the notation is positional. -/
  isPositional : Int → Bool
  /-- Whole numbers keep one zero behind the point. -/
  keepsFraction : Bool

namespace Decimal

/-- The reals that round to `significand * 2 ^ exponent`, in quarters of its unit. Below a power
of two the neighbour is half as far. -/
def roundingInterval (format : BinaryFormat) (significand : Nat) (exponent : Int) : Nat × Nat :=
  let lowest := if significand = Nat.pow 2 (format.precision - 1) ∧ format.minExponent < exponent
    then 4 * significand - 1 else 4 * significand - 2
  (lowest, 4 * significand + 2)

/-- Whether the grid point `count * 10 ^ power` rounds to `significand * 2 ^ exponent`. The ends
of the interval do when the significand is even. -/
def roundsTo (format : BinaryFormat) (significand : Nat) (exponent : Int) (count : Nat)
    (power : Int) : Bool :=
  let interval := roundingInterval format significand exponent
  let unit := Fraction.scaled 1 2 (exponent - 2)
  let grid := Fraction.scaled count 10 power
  let point := grid.numerator * unit.denominator
  let low := interval.1 * unit.numerator * grid.denominator
  let high := interval.2 * unit.numerator * grid.denominator
  if significand % 2 = 0 then decide (low ≤ point) && decide (point ≤ high)
  else decide (low < point) && decide (point < high)

/-- The neighbour of the number on the grid of `10 ^ power` that rounds to it, the nearer one
if both do, and of two equally near the even one. -/
def onGrid (format : BinaryFormat) (significand : Nat) (exponent : Int) (power : Int) :
    Option Nat :=
  let value := (Fraction.scaled significand 2 exponent).div (.scaled 1 10 power)
  let below := value.numerator / value.denominator
  let near := value.nearest
  let far := if near = below then below + 1 else below
  if near ≠ 0 ∧ roundsTo format significand exponent near power then some near
  else if far ≠ 0 ∧ roundsTo format significand exponent far power then some far
  else none

/-- Try ever finer grids, at most `steps` of them. -/
def search (format : BinaryFormat) (significand : Nat) (exponent : Int) :
    Nat → Int → Decimal
  | 0, power => ⟨0, power⟩
  | steps + 1, power =>
    match onGrid format significand exponent power with
    | some count => ⟨count, power⟩
    | none => search format significand exponent steps (power - 1)

/-- A power of ten above the number. -/
def coarsePower (significand : Nat) (exponent : Int) : Int :=
  (Nat.log2 significand + exponent + 1) * 30103 / 100000 + 1

/-- The shortest decimal that rounds to a finite number. Twenty grids are enough: from the
nineteenth on the distance of two grid points is below the interval. -/
def shortest (format : BinaryFormat) (significand : Nat) (exponent : Int) : Decimal :=
  if significand = 0 then ⟨0, 0⟩
  else search format significand exponent 20 (coarsePower significand exponent)

/-- The digits in positional notation. -/
def positional (digits : List Char) (exponent : Int) (keepsFraction : Bool) : List Char :=
  let point := digits.length + exponent
  if 0 ≤ exponent then
    digits ++ List.replicate exponent.toNat '0' ++ (if keepsFraction then ['.', '0'] else [])
  else if 0 < point then
    digits.take point.toNat ++ '.' :: digits.drop point.toNat
  else
    ['0', '.'] ++ List.replicate (-point).toNat '0' ++ digits

/-- The digits with one place before the point and a signed power of ten. -/
def scientific (digits : List Char) (power : Int) : List Char :=
  digits.take 1 ++ (if digits.length = 1 then [] else '.' :: digits.drop 1) ++
    ['e', if power < 0 then '-' else '+'] ++ Nat.toDigits 10 power.natAbs

/-- The characters of a non-negative decimal in a style. -/
def chars (style : NumberStyle) (decimal : Decimal) : List Char :=
  let digits := Nat.toDigits 10 decimal.digits
  let power := decimal.exponent + digits.length - 1
  if style.isPositional power then positional digits decimal.exponent style.keepsFraction
  else scientific digits power

end Decimal

namespace Binary

variable {format : BinaryFormat}

/-- The text of a number in a style. -/
def text (style : NumberStyle) : Binary format → String
  | finite negative m q =>
    String.ofList ((if negative then ['-'] else []) ++
      (Decimal.shortest format m q).chars style)
  | infinite negative => if negative then "-inf" else "inf"
  | nan => "NaN"

end Binary

/-- Never a power of ten, and whole numbers without a point. -/
def NumberStyle.plain : NumberStyle := ⟨fun _ => true, false⟩

end Ensemble
