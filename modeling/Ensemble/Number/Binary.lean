/-
# Binary floating-point numbers

A finite number of a format is a sign, a whole significand and a power of two. Rounding takes a
non-negative fraction to the nearest number of the format, ties to the even significand, and
past the largest number to infinity. All arithmetic is exact arithmetic followed by one
rounding.
-/

namespace Ensemble

/-- A binary format: how many bits a significand has and which powers of two may scale it. -/
structure BinaryFormat where
  precision : Nat
  minExponent : Int
  maxExponent : Int
deriving DecidableEq, Repr

/-- The format with 53 significant bits. -/
def BinaryFormat.double : BinaryFormat := ⟨53, -1074, 971⟩

/-- The format with 24 significant bits. -/
def BinaryFormat.single : BinaryFormat := ⟨24, -149, 104⟩

/-- A number of a binary format. -/
inductive Binary (format : BinaryFormat) where
  | finite (negative : Bool) (significand : Nat) (exponent : Int)
  | infinite (negative : Bool)
  | nan
deriving DecidableEq, Repr

/-- A non-negative fraction. -/
structure Fraction where
  numerator : Nat
  denominator : Nat
deriving DecidableEq, Repr

namespace Fraction

/-- A whole number times a power of a base. -/
def scaled (whole base : Nat) (exponent : Int) : Fraction :=
  if 0 ≤ exponent then ⟨whole * Nat.pow base exponent.toNat, 1⟩
  else ⟨whole, Nat.pow base (-exponent).toNat⟩

/-- The product of two fractions. -/
def mul (left right : Fraction) : Fraction :=
  ⟨left.numerator * right.numerator, left.denominator * right.denominator⟩

/-- The quotient of two fractions. -/
def div (left right : Fraction) : Fraction :=
  ⟨left.numerator * right.denominator, left.denominator * right.numerator⟩

/-- The whole number nearest to a fraction, the even one of two equally near. -/
def nearest (fraction : Fraction) : Nat :=
  let whole := fraction.numerator / fraction.denominator
  let twice := 2 * (fraction.numerator % fraction.denominator)
  if twice < fraction.denominator then whole
  else if fraction.denominator < twice then whole + 1
  else if whole % 2 = 0 then whole else whole + 1

end Fraction

/-- Doubles are what documents hold. -/
abbrev Binary64 := Binary .double

/-- Singles are what temperatures are. -/
abbrev Binary32 := Binary .single

namespace Binary

variable {format : BinaryFormat}

/-- Zero. -/
def zero (negative : Bool) : Binary format :=
  .finite negative 0 format.minExponent

/-- The power of two that gives a positive fraction a significand of full length. -/
def unitExponent (format : BinaryFormat) (fraction : Fraction) : Int :=
  let guess : Int := Nat.log2 fraction.numerator - Nat.log2 fraction.denominator - format.precision
  let scaled := fraction.div (.scaled 1 2 guess)
  let exact :=
    if scaled.numerator / scaled.denominator < Nat.pow 2 format.precision then guess else guess + 1
  max exact format.minExponent

/-- The number of the format nearest to a fraction. -/
def round (negative : Bool) (fraction : Fraction) : Binary format :=
  if fraction.numerator = 0 then zero negative
  else
    let exponent := unitExponent format fraction
    let significand := (fraction.div (.scaled 1 2 exponent)).nearest
    let carried := significand == Nat.pow 2 format.precision
    let finalSignificand := if carried then significand / 2 else significand
    let finalExponent := if carried then exponent + 1 else exponent
    if format.maxExponent < finalExponent then .infinite negative
    else .finite negative finalSignificand finalExponent

/-- Neither infinite nor NaN. -/
def isFinite : Binary format → Bool
  | finite _ _ _ => true
  | _ => false

/-- The magnitude of a finite number. -/
def magnitude (significand : Nat) (exponent : Int) : Fraction :=
  .scaled significand 2 exponent

/-- The number nearest to an integer. -/
def ofInt (value : Int) : Binary format :=
  round (decide (value < 0)) ⟨value.natAbs, 1⟩

/-- The number nearest to `digits * 10 ^ exponent`. Exponents far outside every format are
decided without building the power. -/
def ofDecimal (negative : Bool) (digits : Nat) (exponent : Int) : Binary format :=
  let size : Int := exponent + (Nat.toDigits 10 digits).length
  if digits = 0 then zero negative
  else if 400 < size then .infinite negative
  else if size < -400 then zero negative
  else round negative (.scaled digits 10 exponent)

/-- The product of two finite numbers, rounded once; NaN when one is not finite. -/
def mul : Binary format → Binary format → Binary format
  | finite s m q, finite s' m' q' => round (s != s') ((magnitude m q).mul (magnitude m' q'))
  | _, _ => nan

/-- The quotient of two finite numbers, rounded once; NaN when one is not finite. -/
def div : Binary format → Binary format → Binary format
  | finite s m q, finite s' m' q' => round (s != s') ((magnitude m q).div (magnitude m' q'))
  | _, _ => nan

/-- The nearest number of another format. -/
def convert {source : BinaryFormat} (target : BinaryFormat) : Binary source → Binary target
  | finite negative m q => round negative (magnitude m q)
  | infinite negative => .infinite negative
  | nan => .nan

/-- The number with the sign turned. -/
def neg : Binary format → Binary format
  | finite negative m q => finite (!negative) m q
  | infinite negative => infinite (!negative)
  | nan => nan

/-- Between zero and one, both ends included; a negative zero is zero. -/
def inUnitInterval : Binary format → Bool
  | finite negative m q =>
    let size := magnitude m q
    (m == 0 || !negative) && decide (size.numerator ≤ size.denominator)
  | _ => false

/-- Equality of numbers: the zeros are equal and NaN equals nothing. -/
def numericEq : Binary format → Binary format → Bool
  | nan, _ => false
  | _, nan => false
  | finite _ 0 _, finite _ 0 _ => true
  | left, right => left == right

end Binary

end Ensemble
