import ExprLexer.Binary64.Rounding
import Mathlib.Tactic.Common

/-!
Rounding depends on the value of a quotient alone, not on how it is written. The number nearest to
a decimal is therefore that of the quotient which the decimal denotes: the cutoffs for exponents
that cannot matter never change it, and zeros may move between the digits and the exponent.
-/

namespace ExprLexer

attribute [local instance (high)] instPowNat

theorem round_quotient_scale (numerator denominator : Nat) {factor : Nat}
    (positive : 0 < factor) :
    roundQuotient (numerator * factor) (denominator * factor) =
      roundQuotient numerator denominator := by
  have twice : 2 * (numerator % denominator * factor) =
      2 * (numerator % denominator) * factor := (Nat.mul_assoc 2 _ factor).symm
  have below : 2 * (numerator % denominator) * factor < denominator * factor ↔
      2 * (numerator % denominator) < denominator := Nat.mul_lt_mul_right positive
  have half : 2 * (numerator % denominator) * factor = denominator * factor ↔
      2 * (numerator % denominator) = denominator := Nat.mul_left_inj (Nat.ne_of_gt positive)
  simp only [roundQuotient, Nat.mul_div_mul_right _ _ positive, Nat.mul_mod_mul_right, twice,
    below, half]

theorem round_quotient_whole (number : Nat) {denominator : Nat} (positive : 0 < denominator) :
    roundQuotient (number * denominator) denominator = number := by
  simp [roundQuotient, Nat.mul_div_cancel number positive, positive]

theorem round_quotient_small {numerator denominator : Nat}
    (small : 2 * numerator < denominator) : roundQuotient numerator denominator = 0 := by
  have below : numerator < denominator := by omega
  simp [roundQuotient, Nat.div_eq_of_lt below, Nat.mod_eq_of_lt below, small]

namespace Magnitude

theorem grid_shift_scale (numerator denominator : Nat) {factor : Nat} (positive : 0 < factor) :
    gridShift (numerator * factor) (denominator * factor) = gridShift numerator denominator := by
  rw [gridShift, gridShift, Nat.mul_div_mul_right _ _ positive]

theorem grid_significand_scale (numerator denominator : Nat) {factor : Nat}
    (positive : 0 < factor) :
    gridSignificand (numerator * factor) (denominator * factor) =
      gridSignificand numerator denominator := by
  rw [gridSignificand, grid_shift_scale _ _ positive, Nat.mul_right_comm denominator,
    round_quotient_scale _ _ positive, gridSignificand]

theorem nearest_scale {numerator denominator factor : Nat} (positive : 0 < denominator)
    (factorPositive : 0 < factor) :
    nearest? (numerator * factor) (denominator * factor) (Nat.mul_pos positive factorPositive) =
      nearest? numerator denominator positive := by
  simp only [nearest?, grid_shift_scale _ _ factorPositive,
    grid_significand_scale _ _ factorPositive]

theorem nearest_same_value {numerator denominator other otherDenominator : Nat}
    (positive : 0 < denominator) (otherPositive : 0 < otherDenominator)
    (same : numerator * otherDenominator = other * denominator) :
    nearest? numerator denominator positive = nearest? other otherDenominator otherPositive := by
  rw [← nearest_scale positive otherPositive, ← nearest_scale otherPositive positive]
  simp only [same, Nat.mul_comm denominator otherDenominator]

theorem nearest_of_tiny {numerator denominator : Nat} (positive : 0 < denominator)
    (tiny : 2 * numerator < denominator) :
    nearest? numerator denominator positive =
      some ⟨0, 0, by decide, Nat.zero_le _, Or.inl rfl⟩ := by
  have shift : gridShift numerator denominator = 0 := by
    rw [gridShift, Nat.div_eq_of_lt (by omega), Nat.log2_zero]
  have significand : gridSignificand numerator denominator = 0 := by
    rw [gridSignificand, shift, Nat.pow_zero, Nat.mul_one]
    exact round_quotient_small tiny
  simp [nearest?, shift, significand]

/-- A quotient of `2 ^ 2098` units and more is beyond the largest magnitude. -/
theorem nearest_of_huge {numerator denominator power : Nat} (positive : 0 < denominator)
    (large : 2098 ≤ power) (huge : denominator * 2 ^ power ≤ numerator) :
    nearest? numerator denominator positive = none := by
  have quotient : 2 ^ power ≤ numerator / denominator := by
    rw [Nat.le_div_iff_mul_le positive, Nat.mul_comm]
    exact huge
  have nonzero : numerator / denominator ≠ 0 := by
    have := Nat.two_pow_pos power
    omega
  have shift : 2046 ≤ gridShift numerator denominator := by
    have bits := (Nat.le_log2 nonzero).mpr quotient
    rw [gridShift]
    omega
  have carriedBeyond : ¬gridShift numerator denominator + 1 ≤ 2045 := by omega
  have beyond : ¬gridShift numerator denominator ≤ 2045 := by omega
  simp only [nearest?, carriedBeyond, beyond, dite_false, dite_eq_ite, ite_self]

def unitBits : Nat := 1074

theorem units_per_one : unitsPerOne = 2 ^ unitBits := by rw [unitsPerOne, unitBits]

theorem units_per_one_pos : 0 < unitsPerOne := by
  rw [units_per_one]
  exact Nat.two_pow_pos unitBits

end Magnitude

namespace Binary64

open Magnitude (unitsPerOne unitBits units_per_one)

theorem of_quotient_same_value (negative : Bool)
    {numerator denominator other otherDenominator : Nat} (positive : 0 < denominator)
    (otherPositive : 0 < otherDenominator)
    (same : numerator * otherDenominator = other * denominator) :
    ofQuotient negative numerator denominator positive =
      ofQuotient negative other otherDenominator otherPositive := by
  rw [ofQuotient, ofQuotient]
  apply congrArg (ofNearest negative)
  apply Magnitude.nearest_same_value
  rw [Nat.mul_right_comm, same, Nat.mul_right_comm]

/-- Above the cutoff for positive exponents every decimal but zero is infinite. -/
theorem of_quotient_overflow (negative : Bool) {digits power : Nat} (present : 0 < digits)
    (large : 400 ≤ power) :
    ofQuotient negative (digits * 10 ^ power) 1 Nat.one_pos = .infinity negative := by
  have tens : 2 ^ (3 * power) ≤ 10 ^ power := by
    rw [Nat.pow_mul]
    exact Nat.pow_le_pow_left (by decide) power
  have beyond : 1 * 2 ^ (3 * power + unitBits) ≤ digits * 10 ^ power * unitsPerOne := by
    rw [Nat.one_mul, Nat.pow_add, units_per_one]
    apply Nat.mul_le_mul_right
    exact Nat.le_trans tens (Nat.le_mul_of_pos_left _ present)
  have exponent : 2098 ≤ 3 * power + unitBits := by
    rw [unitBits]
    omega
  rw [ofQuotient, Magnitude.nearest_of_huge _ exponent beyond, ofNearest]

/-- Below the cutoff for negative exponents every decimal rounds to zero. -/
theorem of_quotient_underflow (negative : Bool) {digits power : Nat}
    (large : digits.log2 + 1076 ≤ power) :
    ofQuotient negative digits (10 ^ power) (Nat.pow_pos (by decide)) =
      .finite negative ⟨0, 0, by decide, Nat.zero_le _, Or.inl rfl⟩ := by
  have bits : digits < 2 ^ (digits.log2 + 1) := Nat.lt_log2_self
  -- Less than half a unit: one bit more than the digits have, and those of the units of one.
  have tiny : 2 * (digits * unitsPerOne) < 10 ^ power :=
    calc
      2 * (digits * unitsPerOne) < 2 * (2 ^ (digits.log2 + 1) * 2 ^ unitBits) := by
        rw [units_per_one]
        exact Nat.mul_lt_mul_of_pos_left
          (Nat.mul_lt_mul_of_pos_right bits (Nat.two_pow_pos unitBits)) (by decide)
      _ = 2 ^ (digits.log2 + 1 + unitBits + 1) := by rw [← Nat.pow_add, Nat.pow_succ']
      _ ≤ 2 ^ power := by
        apply Nat.pow_le_pow_right (by decide)
        rw [unitBits]
        omega
      _ ≤ 10 ^ power := Nat.pow_le_pow_left (by decide) power
  rw [ofQuotient, Magnitude.nearest_of_tiny _ tiny, ofNearest]

theorem of_scientific_natural (negative : Bool) (digits power : Nat) :
    ofScientific negative digits (power : Int) =
      ofQuotient negative (digits * 10 ^ power) 1 Nat.one_pos := by
  change ofQuotient negative (digits * 10 ^ min power 400) 1 Nat.one_pos = _
  rcases Nat.le_total power 400 with within | beyond
  · rw [Nat.min_eq_left within]
  · rcases Nat.eq_zero_or_pos digits with rfl | present
    · rw [Nat.zero_mul, Nat.zero_mul]
    · have cutoff : 400 ≤ min power 400 := Nat.le_min.mpr ⟨beyond, Nat.le_refl 400⟩
      rw [of_quotient_overflow negative present cutoff,
        of_quotient_overflow negative present beyond]

theorem of_scientific_negative (negative : Bool) (digits power : Nat) :
    ofScientific negative digits (-(power : Int)) =
      ofQuotient negative digits (10 ^ power) (Nat.pow_pos (by decide)) := by
  cases power with
  | zero =>
      have whole := of_scientific_natural negative digits 0
      rw [Nat.pow_zero, Nat.mul_one] at whole
      exact whole
  | succ power =>
      change ofQuotient negative digits (10 ^ min (power + 1) (digits.log2 + 1076)) _ = _
      rcases Nat.le_total (power + 1) (digits.log2 + 1076) with within | beyond
      · simp only [Nat.min_eq_left within]
      · have cutoff : digits.log2 + 1076 ≤ min (power + 1) (digits.log2 + 1076) :=
          Nat.le_min.mpr ⟨beyond, Nat.le_refl _⟩
        rw [of_quotient_underflow negative cutoff, of_quotient_underflow negative beyond]

theorem of_scientific_quotient (negative : Bool) (digits up down : Nat) :
    ofScientific negative digits ((up : Int) - down) =
      ofQuotient negative (digits * 10 ^ up) (10 ^ down) (Nat.pow_pos (by decide)) := by
  rcases Nat.le_total down up with below | above
  · obtain ⟨power, rfl⟩ := Nat.exists_eq_add_of_le below
    have exponent : ((down + power : Nat) : Int) - down = (power : Nat) := by omega
    rw [exponent, of_scientific_natural]
    apply of_quotient_same_value
    rw [Nat.mul_one, Nat.pow_add, Nat.mul_assoc, Nat.mul_comm (10 ^ power)]
  · obtain ⟨power, rfl⟩ := Nat.exists_eq_add_of_le above
    have exponent : (up : Int) - (up + power : Nat) = -(power : Nat) := by omega
    rw [exponent, of_scientific_negative]
    apply of_quotient_same_value
    rw [Nat.pow_add, Nat.mul_assoc]

theorem of_scientific_zeros (negative : Bool) (digits zeros : Nat) (exponent : Int) :
    ofScientific negative (digits * 10 ^ zeros) exponent =
      ofScientific negative digits (exponent + zeros) := by
  have split : exponent = (exponent.toNat : Int) - (-exponent).toNat := by omega
  have moved : exponent + zeros = ((exponent.toNat + zeros : Nat) : Int) - (-exponent).toNat := by
    omega
  rw [moved, of_scientific_quotient]
  conv => lhs; rw [split, of_scientific_quotient]
  simp only [Nat.pow_add, Nat.mul_assoc, Nat.mul_comm (10 ^ zeros)]

end Binary64

end ExprLexer
