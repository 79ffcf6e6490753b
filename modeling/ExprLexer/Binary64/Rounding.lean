import ExprLexer.Binary64.Basic

/-!
Rounding exact quotients to the nearest number of 64 bits, a tie going to the even neighbour.
Two facts about the quotient of natural numbers decide the result: which power of two its
logarithm selects as the spacing of the grid, and which multiple of that spacing is nearest.
-/

namespace ExprLexer

attribute [local instance (high)] instPowNat

/-- The natural number nearest to a quotient; halfway between two it is the even one. -/
def roundQuotient (numerator denominator : Nat) : Nat :=
  let quotient := numerator / denominator
  let twice := 2 * (numerator % denominator)
  if twice < denominator ∨ (twice = denominator ∧ quotient % 2 = 0) then quotient
  else quotient + 1

theorem round_quotient_le {numerator denominator bound : Nat}
    (positive : 0 < denominator) (small : numerator < bound * denominator) :
    roundQuotient numerator denominator ≤ bound := by
  have below : numerator / denominator < bound := (Nat.div_lt_iff_lt_mul positive).2 small
  unfold roundQuotient
  simp only
  split <;> omega

theorem le_round_quotient (numerator denominator : Nat) :
    numerator / denominator ≤ roundQuotient numerator denominator := by
  unfold roundQuotient
  simp only
  split <;> omega

namespace Magnitude

/-- How far the grid around a quotient of units is spread: the shift for which its whole part has
53 bits, or none where it has fewer. -/
def gridShift (numerator denominator : Nat) : Nat := (numerator / denominator).log2 - 52

def gridSignificand (numerator denominator : Nat) : Nat :=
  roundQuotient numerator (denominator * 2 ^ gridShift numerator denominator)

theorem grid_significand_le {numerator denominator : Nat} (positive : 0 < denominator) :
    gridSignificand numerator denominator ≤ 2 ^ (53 : Nat) := by
  apply round_quotient_le (Nat.mul_pos positive (Nat.two_pow_pos _))
  have bits : numerator / denominator < 2 ^ ((numerator / denominator).log2 + 1) :=
    Nat.lt_log2_self
  have wide : 2 ^ ((numerator / denominator).log2 + 1) ≤
      2 ^ (53 + gridShift numerator denominator) := by
    apply Nat.pow_le_pow_right (by decide)
    unfold gridShift
    omega
  have product := (Nat.div_lt_iff_lt_mul positive).1 (Nat.lt_of_lt_of_le bits wide)
  rw [Nat.pow_add] at product
  rwa [Nat.mul_comm denominator, ← Nat.mul_assoc]

theorem le_grid_significand {numerator denominator : Nat}
    (spread : gridShift numerator denominator ≠ 0) :
    2 ^ (52 : Nat) ≤ gridSignificand numerator denominator := by
  refine Nat.le_trans ?_ (le_round_quotient _ _)
  have nonzero : numerator / denominator ≠ 0 := by
    intro none
    simp [gridShift, none] at spread
  have bits : 2 ^ (numerator / denominator).log2 ≤ numerator / denominator :=
    Nat.log2_self_le nonzero
  rw [← Nat.div_div_eq_div_mul, Nat.le_div_iff_mul_le (Nat.two_pow_pos _), ← Nat.pow_add]
  refine Nat.le_trans (Nat.pow_le_pow_right (by decide) ?_) bits
  unfold gridShift at spread ⊢
  omega

/-- The magnitude nearest to a quotient of units, or nothing where that lies beyond the largest.
A significand of 53 ones that rounds up becomes the first of the next shift. -/
def nearest? (numerator denominator : Nat) (positive : 0 < denominator) : Option Magnitude :=
  if carried : gridSignificand numerator denominator = 2 ^ (53 : Nat) then
    if fits : gridShift numerator denominator + 1 ≤ 2045 then
      some ⟨2 ^ (52 : Nat), gridShift numerator denominator + 1, by decide, fits,
        Or.inr (Nat.le_refl _)⟩
    else none
  else
    if fits : gridShift numerator denominator ≤ 2045 then
      some
        { significand := gridSignificand numerator denominator
          shift := gridShift numerator denominator
          significand_lt := Nat.lt_of_le_of_ne (grid_significand_le positive) carried
          shift_le := fits
          normal := by
            by_cases spread : gridShift numerator denominator = 0
            · exact Or.inl spread
            · exact Or.inr (le_grid_significand spread) }
    else none

end Magnitude

namespace Binary64

def ofNearest (negative : Bool) : Option Magnitude → Binary64
  | some magnitude => finite negative magnitude
  | none => infinity negative

def ofQuotient (negative : Bool) (numerator denominator : Nat) (positive : 0 < denominator) :
    Binary64 :=
  ofNearest negative
    (Magnitude.nearest? (numerator * Magnitude.unitsPerOne) denominator positive)

def ofInt? (value : Int) : Option Binary64 :=
  (Magnitude.nearest? (value.natAbs * Magnitude.unitsPerOne) 1 Nat.one_pos).map
    (finite (decide (value < 0)))

/-- The number nearest to `digits * 10 ^ exponent`.

Exponents that cannot matter are cut off first, so that a short text with a huge exponent is no
huge computation: above `400` every positive number of digits overflows, and below the
negative of `digits.log2 + 1076` every one rounds to zero. -/
def ofScientific (negative : Bool) (digits : Nat) (exponent : Int) : Binary64 :=
  match exponent with
  | .ofNat power => ofQuotient negative (digits * 10 ^ min power 400) 1 Nat.one_pos
  | .negSucc power =>
      ofQuotient negative digits (10 ^ min (power + 1) (digits.log2 + 1076))
        (Nat.pow_pos (by decide))

end Binary64

end ExprLexer
