import ExprLexer.Proofs.OverflowBound
import ExprLexer.Proofs.ShortestDecimal
import Mathlib.Data.Nat.Dist

/-!
The nearest number is nearest. The multiple of a grid that a quotient is rounded to is as near to
it as any other multiple, and a tie goes to the even one. A magnitude off the grid of a quotient
lies below all magnitudes that can be near, so the same holds among all magnitudes, and with the
sign among all finite numbers.
-/

namespace ExprLexer

attribute [local instance (high)] instPowNat

theorem round_quotient_cases (numerator denominator : Nat) :
    (roundQuotient numerator denominator = numerator / denominator ∧
        2 * (numerator % denominator) ≤ denominator) ∨
      (roundQuotient numerator denominator = numerator / denominator + 1 ∧
        denominator ≤ 2 * (numerator % denominator)) := by
  unfold roundQuotient
  simp only
  split
  · exact Or.inl ⟨rfl, by omega⟩
  · exact Or.inr ⟨rfl, by omega⟩

theorem multiple_beside (count quotient step : Nat) :
    count * step + step ≤ quotient * step ∨ count = quotient ∨ count = quotient + 1 ∨
      quotient * step + 2 * step ≤ count * step := by
  rcases Nat.lt_or_ge count quotient with before | behind
  · have below := Nat.mul_le_mul_right step before
    rw [Nat.succ_mul] at below
    exact Or.inl below
  · rcases Nat.lt_or_ge (quotient + 1) count with beyond | within
    · have above := Nat.mul_le_mul_right step beyond
      rw [Nat.succ_mul, Nat.succ_mul] at above
      omega
    · omega

section Quotients

variable {numerator denominator : Nat}

theorem round_quotient_nearest (positive : 0 < denominator) (count : Nat) :
    Nat.dist numerator (roundQuotient numerator denominator * denominator) ≤
      Nat.dist numerator (count * denominator) := by
  have split := Nat.div_add_mod numerator denominator
  have within := Nat.mod_lt numerator positive
  have beside := multiple_beside count (numerator / denominator) denominator
  have next := Nat.add_one_mul (numerator / denominator) denominator
  rw [Nat.mul_comm] at split
  unfold Nat.dist
  rcases round_quotient_cases numerator denominator with ⟨rounded, half⟩ | ⟨rounded, half⟩
  · rw [rounded]
    rcases beside with below | rfl | rfl | above <;> omega
  · rw [rounded]
    rcases beside with below | rfl | rfl | above <;> omega

theorem round_quotient_tie {count : Nat} (positive : 0 < denominator)
    (different : count ≠ roundQuotient numerator denominator)
    (tie : Nat.dist numerator (count * denominator) =
      Nat.dist numerator (roundQuotient numerator denominator * denominator)) :
    roundQuotient numerator denominator % 2 = 0 := by
  have split := Nat.div_add_mod numerator denominator
  have within := Nat.mod_lt numerator positive
  have beside := multiple_beside count (numerator / denominator) denominator
  have next := Nat.add_one_mul (numerator / denominator) denominator
  rw [Nat.mul_comm] at split
  unfold Nat.dist at tie
  by_cases down : 2 * (numerator % denominator) < denominator ∨
      (2 * (numerator % denominator) = denominator ∧ numerator / denominator % 2 = 0)
  · have rounded : roundQuotient numerator denominator = numerator / denominator := if_pos down
    rw [rounded] at different tie ⊢
    rcases beside with below | rfl | rfl | above <;> omega
  · have rounded : roundQuotient numerator denominator = numerator / denominator + 1 :=
      if_neg down
    rw [rounded] at different tie ⊢
    rcases beside with below | rfl | rfl | above <;> omega

end Quotients

namespace Magnitude

theorem units_injective : Function.Injective units := by
  intro left right same
  have found := nearest_units left
  simp only [same, nearest_units right] at found
  exact (Option.some.inj found).symm

/-- The magnitude is as near to a quotient of units as every other, and even if another one is as
near. -/
structure IsNearest (numerator denominator : Nat) (magnitude : Magnitude) : Prop where
  closest : ∀ other : Magnitude, Nat.dist numerator (magnitude.units * denominator) ≤
    Nat.dist numerator (other.units * denominator)
  even : ∀ other : Magnitude, other ≠ magnitude →
    Nat.dist numerator (other.units * denominator) =
      Nat.dist numerator (magnitude.units * denominator) → magnitude.significand % 2 = 0

section Grid

variable {numerator denominator : Nat} {magnitude : Magnitude}

theorem units_of_nearest {positive : 0 < denominator}
    (found : nearest? numerator denominator positive = some magnitude) :
    magnitude.units = gridSignificand numerator denominator *
        2 ^ gridShift numerator denominator ∧
      (gridSignificand numerator denominator % 2 = 0 → magnitude.significand % 2 = 0) := by
  unfold nearest? at found
  by_cases carried : gridSignificand numerator denominator = 2 ^ (53 : Nat)
  · rw [dif_pos carried] at found
    split at found
    · cases found
      have doubled : 2 ^ (52 : Nat) * 2 ^ (gridShift numerator denominator + 1) =
          2 ^ (53 : Nat) * 2 ^ gridShift numerator denominator := by
        rw [← Nat.pow_add, ← Nat.pow_add, Nat.add_comm _ 1, ← Nat.add_assoc]
      have even : 2 ^ (52 : Nat) % 2 = 0 := by decide
      rw [carried]
      exact ⟨doubled, fun _ => even⟩
    · contradiction
  · rw [dif_neg carried] at found
    split at found
    · cases found
      exact ⟨rfl, id⟩
    · contradiction

/-- A magnitude is on a grid, or below the first magnitude that has all its bits there. -/
theorem units_on_grid (magnitude : Magnitude) (shift : Nat) :
    (∃ count, magnitude.units = count * 2 ^ shift) ∨
      (0 < shift ∧ magnitude.units < 2 ^ (52 : Nat) * 2 ^ shift) := by
  rcases Nat.lt_or_ge magnitude.shift shift with finer | coarser
  · refine Or.inr ⟨by omega, ?_⟩
    calc
      magnitude.units < 2 ^ (53 : Nat) * 2 ^ magnitude.shift :=
        Nat.mul_lt_mul_of_pos_right magnitude.significand_lt (Nat.two_pow_pos _)
      _ = 2 ^ (53 + magnitude.shift) := (Nat.pow_add 2 53 magnitude.shift).symm
      _ ≤ 2 ^ (52 + shift) := Nat.pow_le_pow_right (by decide) (by omega)
      _ = 2 ^ (52 : Nat) * 2 ^ shift := Nat.pow_add 2 52 shift
  · refine Or.inl ⟨magnitude.significand * 2 ^ (magnitude.shift - shift), ?_⟩
    rw [units, Nat.mul_assoc, ← Nat.pow_add, Nat.sub_add_cancel coarser]

/-- What is off the grid of a quotient is farther away than a multiple of its spacing. -/
theorem farther_off_grid {units : Nat} (positive : 0 < denominator)
    (spread : 0 < gridShift numerator denominator)
    (below : units < 2 ^ (52 : Nat) * 2 ^ gridShift numerator denominator) :
    Nat.dist numerator
        (2 ^ (52 : Nat) * (denominator * 2 ^ gridShift numerator denominator)) <
      Nat.dist numerator (units * denominator) := by
  have within := grid_within_quotient (Nat.ne_of_gt spread)
  rw [Nat.le_div_iff_mul_le positive, Nat.add_comm, Nat.pow_add, Nat.mul_assoc,
    Nat.mul_comm (2 ^ gridShift numerator denominator)] at within
  have before := Nat.mul_lt_mul_of_pos_right below positive
  rw [Nat.mul_assoc, Nat.mul_comm (2 ^ gridShift numerator denominator)] at before
  unfold Nat.dist
  omega

theorem nearest_is_nearest {positive : 0 < denominator}
    (found : nearest? numerator denominator positive = some magnitude) :
    IsNearest numerator denominator magnitude := by
  obtain ⟨onGrid, parity⟩ := units_of_nearest found
  have stepPositive : 0 < denominator * 2 ^ gridShift numerator denominator :=
    Nat.mul_pos positive (Nat.two_pow_pos _)
  have scaled : ∀ count, count * 2 ^ gridShift numerator denominator * denominator =
      count * (denominator * 2 ^ gridShift numerator denominator) := by
    intro count
    rw [Nat.mul_assoc, Nat.mul_comm denominator]
  have rounded : ∀ count, Nat.dist numerator
      (roundQuotient numerator (denominator * 2 ^ gridShift numerator denominator) *
        (denominator * 2 ^ gridShift numerator denominator)) ≤ Nat.dist numerator
      (count * (denominator * 2 ^ gridShift numerator denominator)) :=
    round_quotient_nearest stepPositive
  rw [← gridSignificand, ← scaled, ← onGrid] at rounded
  constructor
  · intro other
    rcases units_on_grid other (gridShift numerator denominator) with
      ⟨count, multiple⟩ | ⟨spread, below⟩
    · rw [multiple, scaled]
      exact rounded count
    · have farther := farther_off_grid positive spread below
      exact Nat.le_of_lt (Nat.lt_of_le_of_lt (rounded (2 ^ (52 : Nat))) farther)
  · intro other different tie
    rcases units_on_grid other (gridShift numerator denominator) with
      ⟨count, multiple⟩ | ⟨spread, below⟩
    · have unlike : count ≠ gridSignificand numerator denominator := by
        rintro rfl
        exact different (units_injective (multiple.trans onGrid.symm))
      rw [multiple, onGrid, scaled, scaled] at tie
      exact parity (round_quotient_tie stepPositive unlike tie)
    · have farther := farther_off_grid positive spread below
      have nearer := Nat.lt_of_le_of_lt (rounded (2 ^ (52 : Nat))) farther
      rw [tie] at nearer
      exact absurd nearer (Nat.lt_irrefl _)

end Grid

def signed (negative : Bool) (magnitude : Magnitude) : Int :=
  if negative then -(magnitude.units : Int) else magnitude.units

end Magnitude

namespace Binary64

open Magnitude (unitsPerOne)

/-- The finite number that is nearest to an integer, of two that are equally near the even one. Its
sign is that of the integer. Distances are in units. -/
inductive IsNearestTo (value : Int) : Binary64 → Prop where
  | finite {magnitude : Magnitude}
      (closest : ∀ negative (other : Magnitude),
        (value * unitsPerOne - magnitude.signed (decide (value < 0))).natAbs ≤
          (value * unitsPerOne - other.signed negative).natAbs)
      (even : ∀ negative (other : Magnitude),
        other.signed negative ≠ magnitude.signed (decide (value < 0)) →
          (value * unitsPerOne - other.signed negative).natAbs =
              (value * unitsPerOne - magnitude.signed (decide (value < 0))).natAbs →
            magnitude.significand % 2 = 0) :
      IsNearestTo value (.finite (decide (value < 0)) magnitude)

section Signs

variable {value : Int} {scale : Nat} {magnitude : Magnitude}

theorem distance_of_same_sign (value : Int) (scale : Nat) (magnitude : Magnitude) :
    (value * scale - magnitude.signed (decide (value < 0))).natAbs =
      Nat.dist (value.natAbs * scale) magnitude.units := by
  have size := Int.natAbs_mul value scale
  rw [Int.natAbs_natCast] at size
  rw [← size, Magnitude.signed]
  unfold Nat.dist
  by_cases negative : value < 0
  · have below : value * scale ≤ 0 :=
      Int.mul_nonpos_of_nonpos_of_nonneg (Int.le_of_lt negative) (Int.natCast_nonneg scale)
    rw [if_pos (decide_eq_true negative)]
    omega
  · have above : 0 ≤ value * scale := Int.mul_nonneg (Int.not_lt.mp negative)
      (Int.natCast_nonneg scale)
    rw [if_neg (by simpa using negative)]
    omega

theorem distance_of_other_sign {negative : Bool} (opposed : negative ≠ decide (value < 0)) :
    (value * scale - magnitude.signed negative).natAbs =
      value.natAbs * scale + magnitude.units := by
  have size := Int.natAbs_mul value scale
  rw [Int.natAbs_natCast] at size
  rw [← size, Magnitude.signed]
  cases negative with
  | false =>
      have below : value * scale ≤ 0 :=
        Int.mul_nonpos_of_nonpos_of_nonneg (by simp at opposed; omega) (Int.natCast_nonneg scale)
      rw [if_neg (by decide)]
      omega
  | true =>
      have above : 0 ≤ value * scale :=
        Int.mul_nonneg (by simp at opposed; omega) (Int.natCast_nonneg scale)
      rw [if_pos rfl]
      omega

end Signs

theorem of_int_nearest {value : Int} {number : Binary64} (found : ofInt? value = some number) :
    IsNearestTo value number := by
  rw [ofInt?, Option.map_eq_some_iff] at found
  obtain ⟨magnitude, near, rfl⟩ := found
  obtain ⟨closest, even⟩ := Magnitude.nearest_is_nearest near
  simp only [Nat.mul_one] at closest even
  constructor
  · intro negative other
    rw [distance_of_same_sign]
    by_cases same : negative = decide (value < 0)
    · rw [same, distance_of_same_sign]
      exact closest other
    · rw [distance_of_other_sign same]
      have near := closest other
      unfold Nat.dist at near ⊢
      omega
  · intro negative other different tie
    rw [distance_of_same_sign] at tie
    by_cases same : negative = decide (value < 0)
    · subst same
      rw [distance_of_same_sign] at tie
      apply even other _ tie
      rintro rfl
      exact different rfl
    · -- With the other sign only zero can be as near, and zero is as near with the same sign.
      rw [distance_of_other_sign same] at tie
      have zero : Nat.dist (value.natAbs * unitsPerOne) magnitude.units ≤
          Nat.dist (value.natAbs * unitsPerOne) (0 * 2 ^ 0) :=
        closest ⟨0, 0, by decide, Nat.zero_le _, Or.inl rfl⟩
      rw [Nat.zero_mul] at zero
      unfold Nat.dist at tie zero even
      have nothing : other.units = 0 := by omega
      apply even other _ (by omega)
      rintro rfl
      apply different
      rw [Magnitude.signed, Magnitude.signed, nothing]
      simp

/-- Halfway between two numbers the even one is nearest. -/
example : ofInt? (2 ^ 53 + 1) = ofInt? (2 ^ 53) := by decide +kernel

end Binary64

end ExprLexer
