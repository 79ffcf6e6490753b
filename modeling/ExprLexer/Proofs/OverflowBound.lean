import ExprLexer.Proofs.RoundedQuotients

/-!
Where numbers end. The largest magnitude and the next power of two are equally near to the point
halfway between them, and a tie goes to the even one, which is the power of two: from that point
on no magnitude is nearest. Below it one always is.
-/

namespace ExprLexer

attribute [local instance (high)] instPowNat

/-- A quotient below an even number is rounded up to it from halfway below it on. -/
theorem rounds_up_to_even_iff {numerator half top : Nat} (even : top % 2 = 0)
    (positive : 0 < half) (below : numerator / (2 * half) < top) :
    roundQuotient numerator (2 * half) = top ↔ (2 * top - 1) * half ≤ numerator := by
  have split := Nat.div_add_mod numerator (2 * half)
  have within := Nat.mod_lt numerator (show 0 < 2 * half by omega)
  unfold roundQuotient
  simp only
  generalize numerator / (2 * half) = quotient at split below ⊢
  generalize numerator % (2 * half) = rest at split within ⊢
  have halves : ∀ count : Nat, (2 * (quotient + count + 1) - 1) * half =
      2 * half * quotient + (2 * count + 1) * half := by
    intro count
    rw [show 2 * (quotient + count + 1) - 1 = 2 * quotient + (2 * count + 1) by omega,
      Nat.add_mul, Nat.mul_right_comm]
  obtain ⟨count, rfl⟩ := Nat.exists_eq_add_of_lt below
  rw [halves]
  cases count with
  | zero =>
      have odd : quotient % 2 = 1 := by omega
      by_cases above : half ≤ rest
      · rw [if_neg (by omega)]
        omega
      · rw [if_pos (by omega)]
        omega
  | succ count =>
      have farther : 3 * half ≤ (2 * (count + 1) + 1) * half :=
        Nat.mul_le_mul_right half (by omega)
      constructor
      · intro reached
        split at reached <;> omega
      · intro beyond
        omega

namespace Magnitude

section Grid

variable {numerator denominator : Nat}

theorem quotient_below_grid (numerator denominator : Nat) :
    numerator / denominator < 2 ^ (gridShift numerator denominator + 53) := by
  have bits : numerator / denominator < 2 ^ ((numerator / denominator).log2 + 1) :=
    Nat.lt_log2_self
  apply Nat.lt_of_lt_of_le bits
  apply Nat.pow_le_pow_right (by decide)
  rw [gridShift]
  omega

theorem grid_within_quotient (spread : gridShift numerator denominator ≠ 0) :
    2 ^ (gridShift numerator denominator + 52) ≤ numerator / denominator := by
  have nonzero : numerator / denominator ≠ 0 := by
    intro none
    rw [gridShift, none, Nat.log2_zero] at spread
    contradiction
  have exponent : gridShift numerator denominator + 52 = (numerator / denominator).log2 := by
    rw [gridShift] at spread ⊢
    omega
  rw [exponent]
  exact Nat.log2_self_le nonzero

/-- A significand that was rounded up to 53 bits and one belongs to the next grid. -/
theorem nearest_none_by_grid (positive : 0 < denominator) :
    nearest? numerator denominator positive = none ↔
      2045 < gridShift numerator denominator ∨
        gridShift numerator denominator = 2045 ∧
          gridSignificand numerator denominator = 2 ^ (53 : Nat) := by
  unfold nearest?
  by_cases carried : gridSignificand numerator denominator = 2 ^ (53 : Nat)
  · rw [dif_pos carried]
    by_cases fits : gridShift numerator denominator + 1 ≤ 2045
    · rw [dif_pos fits]
      simp only [reduceCtorEq, false_iff]
      omega
    · rw [dif_neg fits]
      simp only [true_iff, carried, and_true]
      omega
  · rw [dif_neg carried]
    by_cases fits : gridShift numerator denominator ≤ 2045
    · rw [dif_pos fits]
      simp only [reduceCtorEq, false_iff, carried, and_false, or_false]
      omega
    · rw [dif_neg fits]
      simp only [true_iff]
      omega

def halfStepBits : Nat := 2044

/-- The point halfway between the largest magnitude and the power of two above it, in units. -/
def overflowUnits : Nat := (2 ^ (54 : Nat) - 1) * 2 ^ halfStepBits

theorem overflow_of_wide_grid (wide : 2045 < gridShift numerator denominator)
    (positive : 0 < denominator) : denominator * overflowUnits ≤ numerator := by
  have quotient := grid_within_quotient (show gridShift numerator denominator ≠ 0 by omega)
  rw [Nat.le_div_iff_mul_le positive, Nat.mul_comm] at quotient
  refine Nat.le_trans (Nat.mul_le_mul_left denominator ?_) quotient
  calc
    overflowUnits ≤ 2 ^ (54 : Nat) * 2 ^ halfStepBits :=
      Nat.mul_le_mul_right _ (Nat.sub_le _ 1)
    _ = 2 ^ (54 + halfStepBits) := (Nat.pow_add 2 54 halfStepBits).symm
    _ ≤ 2 ^ (gridShift numerator denominator + 52) := by
      apply Nat.pow_le_pow_right (by decide)
      rw [halfStepBits]
      omega

theorem no_overflow_of_narrow_grid (narrow : gridShift numerator denominator < 2045)
    (positive : 0 < denominator) : numerator < denominator * overflowUnits := by
  have quotient := quotient_below_grid numerator denominator
  rw [Nat.div_lt_iff_lt_mul positive, Nat.mul_comm] at quotient
  refine Nat.lt_of_lt_of_le quotient (Nat.mul_le_mul_left denominator ?_)
  calc
    2 ^ (gridShift numerator denominator + 53) ≤ 2 ^ (53 + halfStepBits) := by
      apply Nat.pow_le_pow_right (by decide)
      rw [halfStepBits]
      omega
    _ = 2 ^ (53 : Nat) * 2 ^ halfStepBits := Nat.pow_add 2 53 halfStepBits
    _ ≤ overflowUnits := Nat.mul_le_mul_right _ (by decide)

/-- On the widest grid only the last multiple before the power of two can be rounded up to it. -/
theorem carried_on_widest_grid (widest : gridShift numerator denominator = 2045)
    (positive : 0 < denominator) :
    gridSignificand numerator denominator = 2 ^ (53 : Nat) ↔
      denominator * overflowUnits ≤ numerator := by
  have step : denominator * 2 ^ gridShift numerator denominator =
      2 * (denominator * 2 ^ halfStepBits) := by
    rw [widest, show 2045 = halfStepBits + 1 from rfl, Nat.pow_succ', Nat.mul_left_comm]
  have bound : denominator * overflowUnits =
      (2 ^ (54 : Nat) - 1) * (denominator * 2 ^ halfStepBits) := by
    rw [overflowUnits, Nat.mul_left_comm]
  have below := quotient_below_grid numerator denominator
  rw [Nat.add_comm, Nat.pow_add, ← Nat.div_lt_iff_lt_mul (Nat.two_pow_pos _),
    Nat.div_div_eq_div_mul, step] at below
  rw [gridSignificand, step, bound]
  have halfPositive : 0 < denominator * 2 ^ halfStepBits :=
    Nat.mul_pos positive (Nat.two_pow_pos _)
  exact rounds_up_to_even_iff (by decide) halfPositive below

theorem nearest_none_iff (positive : 0 < denominator) :
    nearest? numerator denominator positive = none ↔
      denominator * overflowUnits ≤ numerator := by
  rw [nearest_none_by_grid positive]
  rcases Nat.lt_trichotomy (gridShift numerator denominator) 2045 with narrow | widest | wide
  · have none := no_overflow_of_narrow_grid narrow positive
    omega
  · rw [← carried_on_widest_grid widest positive]
    simp only [widest, Nat.lt_irrefl, true_and, false_or]
  · have beyond := overflow_of_wide_grid wide positive
    simp only [wide, true_or, true_iff]
    exact beyond

end Grid

end Magnitude

namespace Binary64

open Magnitude (unitsPerOne unitBits units_per_one overflowUnits halfStepBits)

/-- The least natural number that is too large to be a number of the format. -/
def overflowBound : Nat := 2 ^ (1024 : Nat) - 2 ^ (970 : Nat)

theorem overflow_bound_units : overflowBound * unitsPerOne = overflowUnits := by
  -- The exponents stay variables here, since no step may evaluate the powers.
  have scaled : ∀ top half bits : Nat,
      (2 ^ top - 2 ^ half) * 2 ^ bits = 2 ^ (top + bits) - 2 ^ (half + bits) := by
    intro top half bits
    rw [Nat.sub_mul, Nat.pow_add, Nat.pow_add]
  have topBits : 1024 + unitBits = 54 + halfStepBits := rfl
  have halfBits : 970 + unitBits = 0 + halfStepBits := rfl
  calc
    overflowBound * unitsPerOne = (2 ^ (1024 : Nat) - 2 ^ (970 : Nat)) * 2 ^ unitBits := by
      rw [overflowBound, units_per_one]
    _ = 2 ^ (1024 + unitBits) - 2 ^ (970 + unitBits) := scaled 1024 970 unitBits
    _ = 2 ^ (54 + halfStepBits) - 2 ^ (0 + halfStepBits) :=
      congrArg₂ (fun top half : Nat => 2 ^ top - 2 ^ half) topBits halfBits
    _ = (2 ^ (54 : Nat) - 2 ^ (0 : Nat)) * 2 ^ halfStepBits := (scaled 54 0 halfStepBits).symm
    _ = overflowUnits := by rw [Nat.pow_zero, overflowUnits]

theorem of_int_none_iff (value : Int) : ofInt? value = none ↔ overflowBound ≤ value.natAbs := by
  rw [ofInt?, Option.map_eq_none_iff, Magnitude.nearest_none_iff, Nat.one_mul,
    ← overflow_bound_units]
  exact Nat.mul_le_mul_right_iff Magnitude.units_per_one_pos

end Binary64

end ExprLexer
