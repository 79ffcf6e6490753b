import ExprLexer.Proofs.NearestMagnitude
import Mathlib.Algebra.Order.Field.Basic
import Mathlib.Algebra.Order.Field.Rat
import Mathlib.Tactic.FieldSimp
import Mathlib.Tactic.Linarith

/-!
Rounding rational numbers. What a rational that is not negative is rounded to is as near to it as
every finite number is, and even if another number is as near; from halfway between the largest
number and the next power of two on it is infinite. Which rationals are rounded to infinity and to
zero, and that rounding keeps their order, follows from this alone.
-/

namespace ExprLexer

namespace Magnitude

def zero : Magnitude := ⟨0, 0, by decide, Nat.zero_le _, Or.inl rfl⟩

def least : Magnitude := ⟨1, 0, by decide, Nat.zero_le _, Or.inl rfl⟩

def rational (negative : Bool) (magnitude : Magnitude) : ℚ :=
  magnitude.signed negative / unitsPerOne

theorem units_per_one_rational : (0 : ℚ) < unitsPerOne := Nat.cast_pos.mpr units_per_one_pos

theorem rational_unsigned (magnitude : Magnitude) :
    magnitude.rational false = magnitude.units / unitsPerOne := by
  rw [rational, signed, if_neg Bool.false_ne_true, Int.cast_natCast]

theorem rational_negative (magnitude : Magnitude) :
    magnitude.rational true = -magnitude.rational false := by
  rw [rational_unsigned, rational, signed, if_pos rfl, Int.cast_neg, Int.cast_natCast, neg_div]

theorem rational_nonneg (magnitude : Magnitude) : 0 ≤ magnitude.rational false := by
  rw [rational_unsigned]
  exact div_nonneg (Nat.cast_nonneg _) (Nat.cast_nonneg _)

theorem rational_le_iff {left right : Magnitude} :
    left.rational false ≤ right.rational false ↔ left.units ≤ right.units := by
  rw [rational_unsigned, rational_unsigned, div_le_div_iff_of_pos_right units_per_one_rational,
    Nat.cast_le]

theorem rational_lt_iff {left right : Magnitude} :
    left.rational false < right.rational false ↔ left.units < right.units := by
  rw [← not_le, rational_le_iff, Nat.not_le]

theorem rational_injective {left right : Magnitude}
    (same : left.rational false = right.rational false) : left = right := by
  apply units_injective
  exact Nat.le_antisymm (rational_le_iff.mp same.le) (rational_le_iff.mp same.ge)

theorem rational_zero : zero.rational false = 0 := by
  have nothing : zero.units = 0 := Nat.zero_mul _
  rw [rational_unsigned, nothing, Nat.cast_zero, zero_div]

def afterEven (magnitude : Magnitude) (even : magnitude.significand % 2 = 0) : Magnitude where
  significand := magnitude.significand + 1
  shift := magnitude.shift
  significand_lt := by
    have bound := magnitude.significand_lt
    omega
  shift_le := magnitude.shift_le
  normal := magnitude.normal.imp_right Nat.le_succ_of_le

/-- No two even magnitudes follow each other. -/
theorem between_even {left right : Magnitude} (less : left.units < right.units)
    (leftEven : left.significand % 2 = 0) (rightEven : right.significand % 2 = 0) :
    ∃ middle : Magnitude, left.units < middle.units ∧ middle.units < right.units := by
  have step : 0 < 2 ^ left.shift := Nat.two_pow_pos left.shift
  have above : (left.afterEven leftEven).units = left.units + 2 ^ left.shift := Nat.succ_mul _ _
  have unlike : (left.afterEven leftEven).units ≠ right.units := by
    intro same
    rw [← units_injective same] at rightEven
    have odd : (left.significand + 1) % 2 = 0 := rightEven
    omega
  have reached : (left.afterEven leftEven).units ≤ right.units := by
    rcases units_on_grid right left.shift with ⟨count, multiple⟩ | ⟨spread, below⟩
    · rw [multiple] at less ⊢
      exact Nat.mul_le_mul_right _ (Nat.lt_of_mul_lt_mul_right less)
    · -- Off the grid the other magnitude would lie below all that have as many bits.
      have bits := left.normal.resolve_left (Nat.ne_of_gt spread)
      have large := Nat.mul_le_mul_right (2 ^ left.shift) bits
      have beyond := Nat.lt_of_lt_of_le (Nat.lt_trans less below) large
      exact absurd beyond (Nat.lt_irrefl _)
  exact ⟨left.afterEven leftEven, by omega, Nat.lt_of_le_of_ne reached unlike⟩

end Magnitude

namespace Binary64

open Magnitude (unitsPerOne unitBits units_per_one units_per_one_pos units_per_one_rational)

def halfUnit : ℚ := 1 / 2 ^ (1075 : ℕ)

theorem least_rational : Magnitude.least.rational false = 2 * halfUnit := by
  have one : Magnitude.least.units = 1 := rfl
  have bits : (unitsPerOne : ℚ) = 2 ^ unitBits := by
    rw [units_per_one]
    exact Nat.cast_pow 2 unitBits
  have half : halfUnit = 1 / 2 ^ (unitBits + 1) := rfl
  rw [Magnitude.rational_unsigned, one, bits, half, pow_succ, Nat.cast_one]
  field_simp

/-- The number that a rational is rounded to which is not negative. Of two finite numbers that are
equally near it is the even one. -/
inductive IsRoundedFrom (exact : ℚ) : Binary64 → Prop where
  | infinite (beyond : (overflowBound : ℚ) ≤ exact) : IsRoundedFrom exact (.infinity false)
  | finite {magnitude : Magnitude} (within : exact < overflowBound)
      (closest : ∀ negative (other : Magnitude),
        |exact - magnitude.rational false| ≤ |exact - other.rational negative|)
      (even : ∀ negative (other : Magnitude),
        other.rational negative ≠ magnitude.rational false →
          |exact - other.rational negative| = |exact - magnitude.rational false| →
            magnitude.significand % 2 = 0) :
      IsRoundedFrom exact (.finite false magnitude)

/-- The order of numbers. What is no number has no place in it. -/
def AtMost : Binary64 → Binary64 → Prop
  | nan, _ => False
  | _, nan => False
  | infinity true, _ => True
  | _, infinity false => True
  | finite negative magnitude, finite negative' magnitude' =>
      magnitude.signed negative ≤ magnitude'.signed negative'
  | _, _ => False

section Distances

/-- What is at least as near to the greater of two as to the less lies in the upper half. -/
theorem nearer_to_greater {exact low high : ℚ} (less : low < high)
    (nearer : |exact - high| ≤ |exact - low|) : low + high ≤ 2 * exact := by
  by_contra lower
  have before : |exact - low| < high - exact := by
    apply abs_lt.mpr
    constructor
    · linarith
    · linarith
  have size := neg_abs_le (exact - high)
  linarith

theorem nearer_to_less {exact low high : ℚ} (less : low < high)
    (nearer : |exact - low| ≤ |exact - high|) : 2 * exact ≤ low + high := by
  have mirrored : |-exact - -low| ≤ |-exact - -high| := by
    rw [neg_sub_neg, neg_sub_neg, abs_sub_comm low, abs_sub_comm high]
    exact nearer
  have upper := nearer_to_greater (neg_lt_neg less) mirrored
  linarith

theorem dist_rational (left right : ℕ) : (Nat.dist left right : ℚ) = |(left : ℚ) - right| := by
  rcases Nat.le_total left right with below | above
  · have negative : (left : ℚ) - right ≤ 0 := sub_nonpos.mpr (Nat.cast_le.mpr below)
    rw [Nat.dist_eq_sub_of_le below, Nat.cast_sub below, abs_of_nonpos negative, neg_sub]
  · have positive : 0 ≤ (left : ℚ) - right := sub_nonneg.mpr (Nat.cast_le.mpr above)
    rw [Nat.dist_eq_sub_of_le_right above, Nat.cast_sub above, abs_of_nonneg positive]

variable {numerator denominator : ℕ}

theorem distance_in_units (positive : 0 < denominator) (magnitude : Magnitude) :
    |(numerator : ℚ) / denominator - magnitude.rational false| =
      Nat.dist (numerator * unitsPerOne) (magnitude.units * denominator) /
        (denominator * unitsPerOne) := by
  have below : (0 : ℚ) < denominator := Nat.cast_pos.mpr positive
  have scale : (0 : ℚ) < denominator * unitsPerOne := mul_pos below units_per_one_rational
  rw [Magnitude.rational_unsigned, div_sub_div _ _ below.ne' units_per_one_rational.ne', abs_div,
    abs_of_pos scale, dist_rational, Nat.cast_mul, Nat.cast_mul, mul_comm (denominator : ℚ)]

theorem nearest_none_rational (positive : 0 < denominator) :
    Magnitude.nearest? (numerator * unitsPerOne) denominator positive = none ↔
      (overflowBound : ℚ) ≤ numerator / denominator := by
  rw [Magnitude.nearest_none_iff, ← overflow_bound_units, ← Nat.mul_assoc,
    Nat.mul_le_mul_right_iff units_per_one_pos, le_div_iff₀ (Nat.cast_pos.mpr positive),
    ← Nat.cast_mul, Nat.cast_le, Nat.mul_comm]

end Distances

section Signs

variable {exact : ℚ} {magnitude : Magnitude}

theorem nearer_with_sign (nonneg : 0 ≤ exact) (other : Magnitude) :
    |exact - other.rational false| ≤ |exact - other.rational true| := by
  have size := other.rational_nonneg
  rw [Magnitude.rational_negative, sub_neg_eq_add, abs_of_nonneg (add_nonneg nonneg size)]
  apply abs_le.mpr
  constructor
  · linarith
  · linarith

/-- A negative number that is as near as the nearest is zero. -/
theorem tie_with_negative {other : Magnitude} (nonneg : 0 ≤ exact)
    (closest : ∀ other : Magnitude,
      |exact - magnitude.rational false| ≤ |exact - other.rational false|)
    (tie : |exact - other.rational true| = |exact - magnitude.rational false|) :
    other.rational true = other.rational false := by
  have size := other.rational_nonneg
  have zero := closest .zero
  rw [← tie, Magnitude.rational_zero, sub_zero, Magnitude.rational_negative, sub_neg_eq_add,
    abs_of_nonneg (add_nonneg nonneg size), abs_of_nonneg nonneg] at zero
  rw [Magnitude.rational_negative]
  linarith

end Signs

section Quotients

variable {numerator denominator : ℕ}

theorem of_quotient_rounded (positive : 0 < denominator) :
    IsRoundedFrom (numerator / denominator) (ofQuotient false numerator denominator positive) := by
  have nonneg : (0 : ℚ) ≤ numerator / denominator :=
    div_nonneg (Nat.cast_nonneg _) (Nat.cast_nonneg _)
  have scale : (0 : ℚ) < denominator * unitsPerOne :=
    mul_pos (Nat.cast_pos.mpr positive) units_per_one_rational
  have overflow : Magnitude.nearest? (numerator * unitsPerOne) denominator positive = none ↔
      (overflowBound : ℚ) ≤ numerator / denominator := nearest_none_rational positive
  rw [ofQuotient]
  cases found : Magnitude.nearest? (numerator * unitsPerOne) denominator positive with
  | none => exact .infinite (overflow.mp found)
  | some magnitude =>
      obtain ⟨nearest, parity⟩ := Magnitude.nearest_is_nearest found
      have closest : ∀ other : Magnitude,
          |(numerator : ℚ) / denominator - magnitude.rational false| ≤
            |(numerator : ℚ) / denominator - other.rational false| := by
        intro other
        rw [distance_in_units positive, distance_in_units positive,
          div_le_div_iff_of_pos_right scale, Nat.cast_le]
        exact nearest other
      have even : ∀ other : Magnitude, other.rational false ≠ magnitude.rational false →
          |(numerator : ℚ) / denominator - other.rational false| =
              |(numerator : ℚ) / denominator - magnitude.rational false| →
            magnitude.significand % 2 = 0 := by
        intro other different tie
        rw [distance_in_units positive, distance_in_units positive, div_left_inj' scale.ne',
          Nat.cast_inj] at tie
        apply parity other _ tie
        rintro rfl
        exact different rfl
      apply IsRoundedFrom.finite
      · apply lt_of_not_ge
        intro beyond
        rw [overflow.mpr beyond] at found
        contradiction
      · intro negative other
        cases negative with
        | false => exact closest other
        | true => exact (closest other).trans (nearer_with_sign nonneg other)
      · intro negative other different tie
        cases negative with
        | false => exact even other different tie
        | true =>
            rw [tie_with_negative nonneg closest tie] at different tie
            exact even other different tie

theorem of_natural_rounded (number : ℕ) :
    IsRoundedFrom number (ofQuotient false number 1 Nat.one_pos) := by
  have rounded : IsRoundedFrom (number / (1 : ℕ)) (ofQuotient false number 1 Nat.one_pos) :=
    of_quotient_rounded Nat.one_pos
  rw [Nat.cast_one, div_one] at rounded
  exact rounded

end Quotients

section Rounded

variable {exact other : ℚ} {number otherNumber : Binary64}

theorem rounded_infinite_iff (rounded : IsRoundedFrom exact number) :
    number = .infinity false ↔ (overflowBound : ℚ) ≤ exact := by
  cases rounded with
  | infinite beyond => exact iff_of_true rfl beyond
  | finite within _ _ => exact iff_of_false nofun (not_le.mpr within)

theorem half_unit_positive : 0 < halfUnit := div_pos one_pos (pow_pos two_pos _)

theorem half_unit_below_overflow : halfUnit < overflowBound := by
  have units : 0 < overflowBound * unitsPerOne := by
    rw [overflow_bound_units]
    exact Nat.mul_pos (by decide) (Nat.two_pow_pos _)
  have whole : 1 ≤ overflowBound := Nat.pos_of_mul_pos_right units
  have least : (1 : ℚ) ≤ overflowBound := Nat.one_le_cast.mpr whole
  have two : (1 : ℚ) < 2 := one_lt_two
  have small : halfUnit < 1 := by
    apply (div_lt_one (pow_pos two_pos _)).mpr
    exact one_lt_pow₀ two (by decide)
  exact small.trans_le least

/-- Up to half of the least number only that half is as near to another number as to zero, and
that number is the least. -/
theorem nearest_beside_zero {magnitude : Magnitude} (nonneg : 0 ≤ exact)
    (small : exact ≤ halfUnit) (present : magnitude ≠ .zero)
    (nearer : |exact - magnitude.rational false| ≤ |exact - Magnitude.zero.rational false|) :
    exact = halfUnit ∧ magnitude = .least := by
  have above : Magnitude.least.rational false ≤ magnitude.rational false := by
    apply Magnitude.rational_le_iff.mpr
    apply Nat.pos_of_ne_zero
    intro nothing
    exact present (Magnitude.units_injective (nothing.trans (Nat.zero_mul _).symm))
  rw [Magnitude.rational_zero, sub_zero, abs_of_nonneg nonneg, abs_le] at nearer
  have lower := nearer.1
  rw [least_rational] at above
  constructor
  · linarith
  · apply Magnitude.rational_injective
    rw [least_rational]
    linarith

/-- What is rounded to zero is at most half of the least positive number: that half is as near to
zero as to the least number, whose significand is odd. -/
theorem rounded_zero_iff (nonneg : 0 ≤ exact) (rounded : IsRoundedFrom exact number) :
    number = .finite false .zero ↔ exact ≤ halfUnit := by
  have positive := half_unit_positive
  cases rounded with
  | infinite beyond =>
      exact iff_of_false nofun (not_le.mpr (half_unit_below_overflow.trans_le beyond))
  | @finite magnitude _ closest even =>
      constructor
      · intro zero
        cases zero
        have nearer := closest false .least
        rw [Magnitude.rational_zero, sub_zero, abs_of_nonneg nonneg, least_rational,
          le_abs] at nearer
        cases nearer with
        | inl above => linarith
        | inr below => linarith
      · intro small
        by_contra present
        have different : magnitude ≠ .zero := fun same => present (congrArg _ same)
        obtain ⟨rfl, rfl⟩ := nearest_beside_zero nonneg small different (closest false .zero)
        have tie : |halfUnit - Magnitude.zero.rational false| =
            |halfUnit - Magnitude.least.rational false| := by
          rw [least_rational, Magnitude.rational_zero, sub_zero, two_mul, sub_add_cancel_left,
            abs_neg]
        have apart : Magnitude.zero.rational false ≠ Magnitude.least.rational false :=
          fun same => different (Magnitude.rational_injective same.symm)
        have parity := even false .zero apart tie
        contradiction

theorem finite_at_most_iff {left right : Magnitude} :
    AtMost (.finite false left) (.finite false right) ↔
      left.rational false ≤ right.rational false := by
  rw [Magnitude.rational_le_iff]
  exact Int.ofNat_le

theorem lesser_rounded_in_order (less : exact < other) (rounded : IsRoundedFrom exact number)
    (otherRounded : IsRoundedFrom other otherNumber) : number.AtMost otherNumber := by
  cases rounded with
  | infinite beyond =>
      cases otherRounded with
      | infinite _ => trivial
      | finite within _ _ => exact absurd (beyond.trans less.le) (not_le.mpr within)
  | finite _ closest _ =>
      cases otherRounded with
      | infinite _ => trivial
      | finite _ otherClosest _ =>
          apply finite_at_most_iff.mpr
          by_contra greater
          have above := nearer_to_greater (not_le.mp greater) (closest false _)
          have below := nearer_to_less (not_le.mp greater) (otherClosest false _)
          linarith

theorem nearest_even_not_less {left right : Magnitude}
    (leftClosest : ∀ other : Magnitude,
      |exact - left.rational false| ≤ |exact - other.rational false|)
    (rightClosest : ∀ other : Magnitude,
      |exact - right.rational false| ≤ |exact - other.rational false|)
    (leftEven : left.significand % 2 = 0) (rightEven : right.significand % 2 = 0) :
    ¬left.rational false < right.rational false := by
  intro less
  have above := nearer_to_greater less (rightClosest left)
  have units := Magnitude.rational_lt_iff.mp less
  obtain ⟨middle, behind, before⟩ := Magnitude.between_even units leftEven rightEven
  have low := Magnitude.rational_lt_iff.mpr behind
  have high := Magnitude.rational_lt_iff.mpr before
  -- Both are equally near, so what lies between them is nearer.
  have upper := nearer_to_less low (leftClosest middle)
  linarith

/-- A rational is rounded to one number only. -/
theorem rounded_unique (rounded : IsRoundedFrom exact number)
    (again : IsRoundedFrom exact otherNumber) : number = otherNumber := by
  cases rounded with
  | infinite beyond =>
      cases again with
      | infinite _ => rfl
      | finite within _ _ => exact absurd beyond (not_le.mpr within)
  | @finite left within closest even =>
      cases again with
      | infinite beyond => exact absurd beyond (not_le.mpr within)
      | @finite right _ otherClosest otherEven =>
          by_contra different
          have tie := le_antisymm (closest false right) (otherClosest false left)
          have apart : left.rational false ≠ right.rational false := by
            intro same
            rw [Magnitude.rational_injective same] at different
            exact different rfl
          have leftEven := even false right apart.symm tie.symm
          have rightEven := otherEven false left apart tie
          rcases lt_or_gt_of_ne apart with less | greater
          · exact nearest_even_not_less (closest false) (otherClosest false) leftEven rightEven less
          · exact nearest_even_not_less (otherClosest false) (closest false) rightEven leftEven
              greater

theorem rounded_in_order (order : exact ≤ other) (rounded : IsRoundedFrom exact number)
    (otherRounded : IsRoundedFrom other otherNumber) : number.AtMost otherNumber := by
  rcases lt_or_eq_of_le order with less | rfl
  · exact lesser_rounded_in_order less rounded otherRounded
  · rw [← rounded_unique rounded otherRounded]
    cases rounded with
    | infinite _ => trivial
    | finite _ _ _ => exact finite_at_most_iff.mpr le_rfl

end Rounded

end Binary64

end ExprLexer
