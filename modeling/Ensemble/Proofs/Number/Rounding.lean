/-
# Rounding to a format

A fraction that a format holds is rounded to itself, and what rounding gives is held by the format.
A number is therefore the same again after it was converted to a wider format and back.
-/

import Ensemble.Number.Binary
import Mathlib.Algebra.Order.Field.Power
import Mathlib.Data.Rat.Cast.Order
import Mathlib.Tactic.FieldSimp
import Mathlib.Tactic.Linarith
import Mathlib.Tactic.Positivity
import Mathlib.Tactic.Ring

namespace Ensemble

/-! ## Fractions as rational numbers -/

namespace Fraction

/-- The rational number that a fraction is. -/
def value (fraction : Fraction) : ℚ :=
  fraction.numerator / fraction.denominator

theorem value_div (left right : Fraction) : (left.div right).value = left.value / right.value := by
  rw [value, value, value, div, div_div_div_eq, Nat.cast_mul, Nat.cast_mul]

theorem value_scaled {base : Nat} (hbase : 0 < base) (whole : Nat) (exponent : Int) :
    (scaled whole base exponent).value = whole * (base : ℚ) ^ exponent := by
  have hpositive : (base : ℚ) ≠ 0 := Nat.cast_ne_zero.2 hbase.ne'
  rcases Int.eq_nat_or_neg exponent with ⟨size, rfl | rfl⟩
  · simp [scaled, value, Nat.pow_eq]
  · by_cases hzero : size = 0 <;> simp [hzero, scaled, value, Nat.pow_eq, div_eq_mul_inv]

theorem denominator_scaled_pos {base : Nat} (hbase : 0 < base) (whole : Nat) (exponent : Int) :
    0 < (scaled whole base exponent).denominator := by
  rw [scaled]
  split
  · exact Nat.one_pos
  · exact Nat.pow_pos hbase

/-- A fraction counted in units of a power of two. -/
theorem value_div_scaled (fraction : Fraction) (exponent : Int) :
    (fraction.div (.scaled 1 2 exponent)).value = fraction.value / 2 ^ exponent := by
  rw [value_div, value_scaled Nat.two_pos, Nat.cast_one, one_mul, Nat.cast_ofNat]

theorem denominator_div_scaled_pos {fraction : Fraction} (hden : 0 < fraction.denominator)
    (exponent : Int) : 0 < (fraction.div (.scaled 1 2 exponent)).denominator := by
  refine Nat.mul_pos hden ?_
  rw [scaled]
  split
  · exact Nat.mul_pos Nat.one_pos (Nat.pow_pos Nat.two_pos)
  · exact Nat.one_pos

variable {fraction : Fraction} {whole : Nat}

theorem value_eq_zero_iff (hden : 0 < fraction.denominator) :
    fraction.value = 0 ↔ fraction.numerator = 0 := by
  rw [value, div_eq_zero_iff, or_iff_left (Nat.cast_ne_zero.2 hden.ne'), Nat.cast_eq_zero]

theorem div_lt_iff (hden : 0 < fraction.denominator) :
    fraction.numerator / fraction.denominator < whole ↔ fraction.value < whole := by
  have hcast : (0 : ℚ) < fraction.denominator := Nat.cast_pos.2 hden
  rw [Nat.div_lt_iff_lt_mul hden, value, div_lt_iff₀ hcast]
  exact_mod_cast Iff.rfl

theorem nearest_le_succ (fraction : Fraction) :
    fraction.nearest ≤ fraction.numerator / fraction.denominator + 1 := by
  simp only [nearest]
  split_ifs <;> omega

theorem le_nearest_floor (fraction : Fraction) :
    fraction.numerator / fraction.denominator ≤ fraction.nearest := by
  simp only [nearest]
  split_ifs <;> omega

theorem nearest_le (hden : 0 < fraction.denominator) (h : fraction.value < whole) :
    fraction.nearest ≤ whole :=
  fraction.nearest_le_succ.trans ((div_lt_iff hden).2 h)

theorem le_nearest (hden : 0 < fraction.denominator) (h : whole ≤ fraction.value) :
    whole ≤ fraction.nearest :=
  le_trans (not_lt.1 fun hlt => not_lt.2 h ((div_lt_iff hden).1 hlt)) fraction.le_nearest_floor

/-- A whole number is the nearest to itself. -/
theorem nearest_eq (hden : 0 < fraction.denominator) (h : fraction.value = whole) :
    fraction.nearest = whole := by
  have hcast : (fraction.denominator : ℚ) ≠ 0 := Nat.cast_ne_zero.2 hden.ne'
  have hnumerator : fraction.numerator = whole * fraction.denominator := by
    rw [value, div_eq_iff hcast] at h
    exact_mod_cast h
  have hfloor : fraction.numerator / fraction.denominator = whole := by
    rw [hnumerator, Nat.mul_div_cancel _ hden]
  have hrest : fraction.numerator % fraction.denominator = 0 := by
    rw [hnumerator, Nat.mul_mod_left]
  simp only [nearest, hrest, hfloor, Nat.mul_zero, if_pos hden]

end Fraction

/-! ## Formats -/

/-- A format that has a significand and an exponent at all. -/
structure BinaryFormat.Sound (format : BinaryFormat) : Prop where
  precision_pos : 0 < format.precision
  min_le_max : format.minExponent ≤ format.maxExponent

theorem BinaryFormat.sound_single : BinaryFormat.single.Sound := ⟨by decide, by decide⟩

theorem BinaryFormat.sound_double : BinaryFormat.double.Sound := ⟨by decide, by decide⟩

/-- A finite number in the form of a format: the significand has full length unless the exponent
is the least. -/
structure BinaryFormat.Holds (format : BinaryFormat) (significand : Nat) (exponent : Int) :
    Prop where
  lt : significand < 2 ^ format.precision
  min_le : format.minExponent ≤ exponent
  le_max : exponent ≤ format.maxExponent
  full : 2 ^ (format.precision - 1) ≤ significand ∨ exponent = format.minExponent

namespace Binary

variable {format : BinaryFormat}

/-- A number that the format holds, or none that is finite. -/
def Canonical : Binary format → Prop
  | finite _ significand exponent => format.Holds significand exponent
  | infinite _ => True
  | nan => True

theorem value_magnitude (significand : Nat) (exponent : Int) :
    (magnitude significand exponent).value = significand * (2 : ℚ) ^ exponent :=
  Fraction.value_scaled Nat.two_pos significand exponent

/-- A positive whole number lies between two neighbouring powers of two. -/
theorem log2_bounds {whole : Nat} (h : 0 < whole) :
    (2 : ℚ) ^ (Nat.log2 whole : ℤ) ≤ whole ∧
      (whole : ℚ) < (2 : ℚ) ^ ((Nat.log2 whole : ℤ) + 1) := by
  have hlow : 2 ^ Nat.log2 whole ≤ whole := Nat.log2_self_le h.ne'
  have hhigh : whole < 2 ^ (Nat.log2 whole + 1) := Nat.lt_log2_self
  constructor
  · exact_mod_cast hlow
  · exact_mod_cast hhigh

/-- The exponent of a positive fraction is the one that gives full length, unless that is too
small. -/
theorem exists_unitExponent (format : BinaryFormat) {fraction : Fraction}
    (hnum : 0 < fraction.numerator) (hden : 0 < fraction.denominator) :
    ∃ exact : ℤ, unitExponent format fraction = max exact format.minExponent ∧
      (2 : ℚ) ^ (exact + format.precision - 1) ≤ fraction.value ∧
      fraction.value < (2 : ℚ) ^ (exact + format.precision) := by
  obtain ⟨hnumLow, hnumHigh⟩ := log2_bounds hnum
  obtain ⟨hdenLow, hdenHigh⟩ := log2_bounds hden
  have hcast : (0 : ℚ) < fraction.denominator := Nat.cast_pos.2 hden
  let numLength : ℤ := Nat.log2 fraction.numerator
  let denLength : ℤ := Nat.log2 fraction.denominator
  -- The guess from the two lengths is right or one too small.
  have hlow : (2 : ℚ) ^ (numLength - denLength - 1) ≤ fraction.value := by
    rw [Fraction.value, le_div_iff₀ hcast]
    calc (2 : ℚ) ^ (numLength - denLength - 1) * fraction.denominator
        ≤ 2 ^ (numLength - denLength - 1) * 2 ^ (denLength + 1) := by gcongr
      _ = 2 ^ numLength := by rw [← zpow_add₀ two_ne_zero]; congr 1; ring
      _ ≤ fraction.numerator := hnumLow
  have hhigh : fraction.value < (2 : ℚ) ^ (numLength - denLength + 1) := by
    rw [Fraction.value, div_lt_iff₀ hcast]
    calc (fraction.numerator : ℚ)
        < 2 ^ (numLength + 1) := hnumHigh
      _ = 2 ^ (numLength - denLength + 1) * 2 ^ denLength := by
          rw [← zpow_add₀ two_ne_zero]; congr 1; ring
      _ ≤ 2 ^ (numLength - denLength + 1) * fraction.denominator := by gcongr
  let guess : ℤ := numLength - denLength - format.precision
  let quotient := fraction.div (.scaled 1 2 guess)
  have hquotient : quotient.numerator / quotient.denominator < Nat.pow 2 format.precision ↔
      fraction.value < (2 : ℚ) ^ (guess + format.precision) := by
    rw [Fraction.div_lt_iff (Fraction.denominator_div_scaled_pos hden guess),
      Fraction.value_div_scaled, div_lt_iff₀ (zpow_pos two_pos guess), Nat.pow_eq, Nat.cast_pow,
      Nat.cast_ofNat, ← zpow_natCast, ← zpow_add₀ two_ne_zero, add_comm guess]
  by_cases hsmall : quotient.numerator / quotient.denominator < Nat.pow 2 format.precision
  · refine ⟨guess, ?_, ?_, hquotient.1 hsmall⟩
    · rw [unitExponent]
      exact congrArg (max · _) (if_pos hsmall)
    · rwa [show guess + format.precision - 1 = numLength - denLength - 1 by ring]
  · refine ⟨guess + 1, ?_, ?_, ?_⟩
    · rw [unitExponent]
      exact congrArg (max · _) (if_neg hsmall)
    · rw [show guess + 1 + format.precision - 1 = guess + format.precision by ring]
      exact not_lt.1 (mt hquotient.2 hsmall)
    · rwa [show guess + 1 + format.precision = numLength - denLength + 1 by ring]

/-- The exponent of a number that the format holds is the exponent it is written with. -/
theorem unitExponent_eq {fraction : Fraction} {significand : Nat} {exponent : Int}
    (hden : 0 < fraction.denominator) (hholds : format.Holds significand exponent)
    (hpos : 0 < significand) (hvalue : fraction.value = significand * (2 : ℚ) ^ exponent) :
    unitExponent format fraction = exponent := by
  have hunitPos : (0 : ℚ) < 2 ^ exponent := zpow_pos two_pos exponent
  have hnum : fraction.numerator ≠ 0 := by
    rw [Ne, ← Fraction.value_eq_zero_iff hden, hvalue]
    exact (mul_pos (Nat.cast_pos.2 hpos) hunitPos).ne'
  have hlt : (significand : ℚ) < 2 ^ (format.precision : ℤ) := by
    exact_mod_cast hholds.lt
  obtain ⟨exact, hunit, hlow, hhigh⟩ := exists_unitExponent format (Nat.pos_of_ne_zero hnum) hden
  have hle : exact ≤ exponent := by
    have hpowers : (2 : ℚ) ^ (exact + format.precision - 1) < 2 ^ (format.precision + exponent) :=
      calc (2 : ℚ) ^ (exact + format.precision - 1)
          ≤ significand * 2 ^ exponent := hlow.trans_eq hvalue
        _ < 2 ^ (format.precision : ℤ) * 2 ^ exponent := by gcongr
        _ = 2 ^ (format.precision + exponent) := (zpow_add₀ two_ne_zero _ _).symm
    have := (zpow_lt_zpow_iff_right₀ one_lt_two).1 hpowers
    omega
  rw [hunit]
  rcases hholds.full with hfull | hmin
  · have hge : exponent ≤ exact := by
      have hlength : (2 : ℚ) ^ ((format.precision - 1 : ℕ) : ℤ) ≤ significand := by
        exact_mod_cast hfull
      have hpowers : (2 : ℚ) ^ ((format.precision - 1 : ℕ) + exponent) <
          2 ^ (exact + format.precision) :=
        calc (2 : ℚ) ^ ((format.precision - 1 : ℕ) + exponent)
            = 2 ^ ((format.precision - 1 : ℕ) : ℤ) * 2 ^ exponent := zpow_add₀ two_ne_zero _ _
          _ ≤ significand * 2 ^ exponent := by gcongr
          _ < 2 ^ (exact + format.precision) := hvalue.symm.trans_lt hhigh
      have := (zpow_lt_zpow_iff_right₀ one_lt_two).1 hpowers
      omega
    rw [le_antisymm hle hge]
    exact max_eq_left hholds.min_le
  · rw [← hmin]
    exact max_eq_right hle

/-- A number that the format holds is rounded to itself. -/
theorem round_eq (negative : Bool) {fraction : Fraction} {significand : Nat} {exponent : Int}
    (hden : 0 < fraction.denominator) (hholds : format.Holds significand exponent)
    (hvalue : fraction.value = significand * (2 : ℚ) ^ exponent) :
    (round negative fraction : Binary format) = finite negative significand exponent := by
  have hunitPos : (0 : ℚ) < 2 ^ exponent := zpow_pos two_pos exponent
  rcases Nat.eq_zero_or_pos significand with rfl | hpos
  · have hnum : fraction.numerator = 0 := by
      rw [← Fraction.value_eq_zero_iff hden, hvalue, Nat.cast_zero, zero_mul]
    have hmin : exponent = format.minExponent :=
      hholds.full.resolve_left (Nat.not_le.2 (Nat.two_pow_pos _))
    rw [round, if_pos hnum, zero, hmin]
  · have hnum : fraction.numerator ≠ 0 := by
      rw [Ne, ← Fraction.value_eq_zero_iff hden, hvalue]
      exact (mul_pos (Nat.cast_pos.2 hpos) hunitPos).ne'
    have hnearest : (fraction.div (.scaled 1 2 exponent)).nearest = significand := by
      apply Fraction.nearest_eq (Fraction.denominator_div_scaled_pos hden exponent)
      rw [Fraction.value_div_scaled, hvalue, mul_div_cancel_right₀ _ hunitPos.ne']
    have hcarried : (significand == Nat.pow 2 format.precision) = false :=
      beq_false_of_ne hholds.lt.ne
    rw [round, if_neg hnum]
    simp only [unitExponent_eq hden hholds hpos hvalue, hnearest, hcarried]
    exact if_neg (not_lt.2 hholds.le_max)

theorem canonical_zero (hsound : format.Sound) (negative : Bool) :
    (zero negative : Binary format).Canonical :=
  ⟨Nat.two_pow_pos _, le_rfl, hsound.min_le_max, .inr rfl⟩

/-- What rounding gives is a number that the format holds, or infinite. -/
theorem canonical_round (hsound : format.Sound) (negative : Bool) {fraction : Fraction}
    (hden : 0 < fraction.denominator) : (round negative fraction : Binary format).Canonical := by
  by_cases hnum : fraction.numerator = 0
  · rw [round, if_pos hnum]
    exact canonical_zero hsound negative
  obtain ⟨exact, hunit, hlow, hhigh⟩ :=
    exists_unitExponent format (Nat.pos_of_ne_zero hnum) hden
  let exponent := max exact format.minExponent
  let quotient := fraction.div (.scaled 1 2 exponent)
  have hquotient := Fraction.denominator_div_scaled_pos hden exponent
  have hle : quotient.nearest ≤ 2 ^ format.precision := by
    apply Fraction.nearest_le hquotient
    rw [Fraction.value_div_scaled, div_lt_iff₀ (zpow_pos two_pos exponent), Nat.cast_pow,
      Nat.cast_ofNat, ← zpow_natCast, ← zpow_add₀ two_ne_zero]
    refine hhigh.trans_le (zpow_le_zpow_right₀ one_le_two ?_)
    rw [add_comm]
    exact Int.add_le_add_left (le_max_left _ _) _
  have hfull : 2 ^ (format.precision - 1) ≤ quotient.nearest ∨ exponent = format.minExponent := by
    rcases le_total exact format.minExponent with hmin | hmin
    · exact .inr (max_eq_right hmin)
    · refine .inl (Fraction.le_nearest hquotient ?_)
      have hpos := hsound.precision_pos
      have hexponent : exponent = exact := max_eq_left hmin
      rw [Fraction.value_div_scaled, le_div_iff₀ (zpow_pos two_pos exponent), Nat.cast_pow,
        Nat.cast_ofNat, ← zpow_natCast, ← zpow_add₀ two_ne_zero, hexponent]
      refine le_of_eq_of_le (congrArg _ ?_) hlow
      omega
  have hround : (round negative fraction : Binary format) =
      if quotient.nearest = 2 ^ format.precision then
        if format.maxExponent < exponent + 1 then infinite negative
        else finite negative (2 ^ format.precision / 2) (exponent + 1)
      else
        if format.maxExponent < exponent then infinite negative
        else finite negative quotient.nearest exponent := by
    rw [round, if_neg hnum, hunit]
    simp only [Nat.pow_eq, beq_iff_eq]
    by_cases hcarried : quotient.nearest = 2 ^ format.precision
    · simp only [quotient, exponent] at hcarried ⊢
      simp only [hcarried, if_true]
    · simp only [quotient, exponent] at hcarried ⊢
      simp only [hcarried, if_false]
  have hmin : format.minExponent ≤ exponent := le_max_right _ _
  rw [hround]
  split_ifs with hcarried hgreat hgreat
  · trivial
  · have hhalf : 2 ^ format.precision / 2 = 2 ^ (format.precision - 1) :=
      Nat.pow_div hsound.precision_pos Nat.two_pos
    rw [hhalf]
    exact ⟨Nat.pow_lt_pow_right Nat.one_lt_two (Nat.sub_lt hsound.precision_pos Nat.one_pos),
      hmin.trans (Int.le_add_one le_rfl), not_lt.1 hgreat, .inl le_rfl⟩
  · trivial
  · exact ⟨lt_of_le_of_ne hle hcarried, hmin, not_lt.1 hgreat, hfull⟩

/-! ## Converting -/

theorem canonical_convert {source : BinaryFormat} (hsound : format.Sound) (number : Binary source) :
    (number.convert format).Canonical := by
  cases number with
  | finite negative significand exponent =>
      exact canonical_round hsound negative
        (Fraction.denominator_scaled_pos Nat.two_pos significand exponent)
  | infinite negative => trivial
  | nan => trivial

theorem canonical_ofInt (hsound : format.Sound) (whole : Int) :
    (ofInt whole : Binary format).Canonical :=
  canonical_round hsound _ Nat.one_pos

end Binary

/-- A format that holds every number of another one. -/
structure BinaryFormat.Within (narrow wide : BinaryFormat) : Prop where
  precision_le : narrow.precision ≤ wide.precision
  min_le : wide.minExponent + wide.precision ≤ narrow.minExponent + 1
  max_le : narrow.maxExponent ≤ wide.maxExponent

theorem BinaryFormat.single_within_double : BinaryFormat.single.Within .double :=
  ⟨by decide, by decide, by decide⟩

/-- A number that a format holds has a form in a wider one. -/
theorem BinaryFormat.Holds.widen {narrow wide : BinaryFormat} (hsound : wide.Sound)
    (hwithin : narrow.Within wide) {significand : Nat} {exponent : Int}
    (h : narrow.Holds significand exponent) :
    ∃ (longer : Nat) (lower : Int), wide.Holds longer lower ∧
      (significand : ℚ) * 2 ^ exponent = longer * 2 ^ lower := by
  rcases Nat.eq_zero_or_pos significand with rfl | hpos
  · exact ⟨0, wide.minExponent, ⟨Nat.two_pow_pos _, le_rfl, hsound.min_le_max, .inr rfl⟩, by simp⟩
  have hlength : significand.log2 < narrow.precision := (Nat.log2_lt hpos.ne').2 h.lt
  have hlow : 2 ^ significand.log2 ≤ significand := Nat.log2_self_le hpos.ne'
  have hhigh : significand < 2 ^ (significand.log2 + 1) := Nat.lt_log2_self
  obtain ⟨shift, hshift⟩ : ∃ shift, wide.precision = significand.log2 + 1 + shift :=
    Nat.exists_eq_add_of_le (hlength.trans_le hwithin.precision_le)
  have hmin := h.min_le
  have hmax := h.le_max
  obtain ⟨-, hminWide, hmaxWide⟩ := hwithin
  refine ⟨significand * 2 ^ shift, exponent - shift, ⟨?_, by omega, by omega, .inl ?_⟩, ?_⟩
  · rw [hshift, pow_add]
    exact Nat.mul_lt_mul_of_pos_right hhigh (Nat.two_pow_pos shift)
  · rw [hshift, Nat.add_right_comm, Nat.add_sub_cancel, pow_add]
    exact Nat.mul_le_mul_right _ hlow
  · rw [Nat.cast_mul, Nat.cast_pow, Nat.cast_ofNat, ← zpow_natCast, mul_assoc,
      ← zpow_add₀ two_ne_zero, add_sub_cancel]

/-- A number is the same again after it was converted to a wider format and back. -/
theorem Binary.convert_convert {narrow wide : BinaryFormat} (hsound : wide.Sound)
    (hwithin : narrow.Within wide) {number : Binary narrow} (h : number.Canonical) :
    (number.convert wide).convert narrow = number := by
  cases number with
  | finite negative significand exponent =>
      have hden := Fraction.denominator_scaled_pos Nat.two_pos
      obtain ⟨longer, lower, hholds, hvalue⟩ := BinaryFormat.Holds.widen hsound hwithin h
      have hwide : (finite negative significand exponent : Binary narrow).convert wide =
          finite negative longer lower :=
        round_eq negative (hden significand exponent) hholds
          ((value_magnitude significand exponent).trans hvalue)
      rw [hwide]
      exact round_eq negative (hden longer lower) h
        ((value_magnitude longer lower).trans hvalue.symm)
  | infinite negative => rfl
  | nan => rfl

end Ensemble
