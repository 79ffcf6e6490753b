import ExprLexer.Decimal.Shortest
import ExprLexer.Proofs.RoundedQuotients

/-!
The shortest decimal of a magnitude reads back. A magnitude is its own nearest one, so all its
digits read back, and the search before them only takes a decimal that was tried.
-/

namespace ExprLexer

attribute [local instance (high)] instPowNat

namespace Magnitude

theorem grid_shift_units (magnitude : Magnitude) :
    gridShift magnitude.units 1 = magnitude.shift := by
  rw [gridShift, Nat.div_one, units]
  -- Without a shift the significand may be short; with one it has all its bits.
  rcases magnitude.normal with unspread | leading
  · have bits : magnitude.significand.log2 < 53 := by
      rcases Nat.eq_zero_or_pos magnitude.significand with none | present
      · rw [none]
        decide
      · exact (Nat.log2_lt (Nat.ne_of_gt present)).mpr magnitude.significand_lt
    rw [unspread, Nat.pow_zero, Nat.mul_one]
    omega
  · have lower : 2 ^ (52 + magnitude.shift) ≤ magnitude.significand * 2 ^ magnitude.shift := by
      rw [Nat.pow_add]
      exact Nat.mul_le_mul_right _ leading
    have upper : magnitude.significand * 2 ^ magnitude.shift < 2 ^ (53 + magnitude.shift) := by
      rw [Nat.pow_add]
      exact Nat.mul_lt_mul_of_pos_right magnitude.significand_lt (Nat.two_pow_pos _)
    have present : magnitude.significand * 2 ^ magnitude.shift ≠ 0 :=
      Nat.ne_of_gt (Nat.lt_of_lt_of_le (Nat.two_pow_pos _) lower)
    have atLeast := (Nat.le_log2 present).mpr lower
    have below := (Nat.log2_lt present).mpr upper
    omega

theorem grid_significand_units (magnitude : Magnitude) :
    gridSignificand magnitude.units 1 = magnitude.significand := by
  rw [gridSignificand, grid_shift_units, Nat.one_mul, units]
  exact round_quotient_whole _ (Nat.two_pow_pos _)

theorem nearest_units (magnitude : Magnitude) :
    nearest? magnitude.units 1 Nat.one_pos = some magnitude := by
  have uncarried : magnitude.significand ≠ 2 ^ 53 := Nat.ne_of_lt magnitude.significand_lt
  simp only [nearest?, grid_shift_units, grid_significand_units, uncarried, dite_false,
    magnitude.shift_le, dite_true]

end Magnitude

namespace Binary64

open Magnitude (unitsPerOne units_per_one_pos)

theorem of_quotient_units (negative : Bool) (magnitude : Magnitude) :
    ofQuotient negative magnitude.units unitsPerOne units_per_one_pos =
      .finite negative magnitude := by
  have nearest : Magnitude.nearest? (magnitude.units * unitsPerOne) unitsPerOne units_per_one_pos =
      Magnitude.nearest? magnitude.units 1 Nat.one_pos := by
    apply Magnitude.nearest_same_value
    rw [Nat.mul_one]
  rw [ofQuotient, nearest, Magnitude.nearest_units, ofNearest]

theorem of_quotient_sign (negative : Bool) {numerator denominator : Nat}
    {positive : 0 < denominator} {magnitude : Magnitude}
    (near : ofQuotient false numerator denominator positive = .finite false magnitude) :
    ofQuotient negative numerator denominator positive = .finite negative magnitude := by
  rw [ofQuotient] at near ⊢
  generalize Magnitude.nearest? (numerator * unitsPerOne) denominator positive = nearest at near ⊢
  cases nearest with
  | none => exact absurd near Binary64.noConfusion
  | some other =>
      have same : other = magnitude := (Binary64.finite.inj near).2
      rw [same, ofNearest]

theorem of_scientific_sign (negative : Bool) {digits : Nat} {exponent : Int}
    {magnitude : Magnitude} (near : ofScientific false digits exponent = .finite false magnitude) :
    ofScientific negative digits exponent = .finite negative magnitude := by
  have split : exponent = (exponent.toNat : Int) - (-exponent).toNat := by omega
  rw [split, of_scientific_quotient] at near ⊢
  exact of_quotient_sign negative near

end Binary64

namespace Decimal

open Binary64
open Magnitude (unitBits units_per_one)

theorem reads_back_iff {magnitude : Magnitude} {decimal : Decimal} :
    readsBack magnitude decimal = true ↔
      ofScientific false decimal.digits decimal.exponent = .finite false magnitude :=
  beq_iff_eq

theorem exact_reads_back (magnitude : Magnitude) :
    readsBack magnitude (exact magnitude) = true := by
  have value : ofScientific false (magnitude.units * 5 ^ unitBits) (-(unitBits : Int)) =
      .finite false magnitude := by
    rw [of_scientific_negative, ← of_quotient_units false magnitude]
    apply of_quotient_same_value
    rw [units_per_one, Nat.mul_assoc, ← Nat.mul_pow]
  have spelled : exact magnitude = ⟨magnitude.units * 5 ^ unitBits, -(unitBits : Int)⟩ := by
    simp only [exact, unitBits, Int.cast_ofNat_Int]
  rw [spelled]
  exact reads_back_iff.mpr value

theorem with_digits_reads_back {magnitude : Magnitude} {leading : Int} {count : Nat}
    {decimal : Decimal} (found : withDigits? magnitude leading count = some decimal) :
    readsBack magnitude decimal = true :=
  List.find?_some found

theorem of_scientific_none (negative : Bool) {magnitude : Magnitude}
    (zero : magnitude.significand = 0) (exponent : Int) :
    ofScientific negative 0 exponent = .finite negative magnitude := by
  have split : exponent = (exponent.toNat : Int) - (-exponent).toNat := by omega
  have none : magnitude.units = 0 := by rw [Magnitude.units, zero, Nat.zero_mul]
  rw [split, of_scientific_quotient, Nat.zero_mul,
    ← of_quotient_units negative magnitude]
  apply of_quotient_same_value
  rw [none, Nat.zero_mul, Nat.zero_mul]

theorem shortest_reads_back (magnitude : Magnitude) :
    readsBack magnitude (shortest magnitude) = true := by
  by_cases zero : magnitude.significand = 0
  · rw [shortest, if_pos zero]
    exact reads_back_iff.mpr (of_scientific_none false zero 0)
  · rw [shortest, if_neg zero]
    cases found : (List.range' 1 17).findSome?
        (withDigits? magnitude (leadingExponent magnitude)) with
    | none => exact exact_reads_back magnitude
    | some decimal =>
        obtain ⟨count, -, tried⟩ := List.exists_of_findSome?_eq_some found
        exact with_digits_reads_back tried

theorem of_scientific_shortest (negative : Bool) (magnitude : Magnitude) :
    ofScientific negative (shortest magnitude).digits (shortest magnitude).exponent =
      .finite negative magnitude := by
  apply of_scientific_sign
  exact reads_back_iff.mp (shortest_reads_back magnitude)

theorem shortest_of_zero {magnitude : Magnitude} (zero : magnitude.significand = 0) :
    shortest magnitude = ⟨0, 0⟩ := by
  rw [shortest, if_pos zero]

theorem shortest_digits_pos {magnitude : Magnitude} (present : magnitude.significand ≠ 0) :
    0 < (shortest magnitude).digits := by
  apply Nat.pos_of_ne_zero
  intro none
  have value := of_scientific_shortest false magnitude
  let nothing : Magnitude := ⟨0, 0, by decide, Nat.zero_le _, Or.inl rfl⟩
  have zero := of_scientific_none false (show nothing.significand = 0 from rfl)
    (shortest magnitude).exponent
  rw [none, zero] at value
  have same : nothing = magnitude := (Binary64.finite.inj value).2
  exact present (congrArg Magnitude.significand same.symm)

end Decimal

end ExprLexer
