import ExprLexer.Binary64.Rounding

/-!
The shortest decimal of a magnitude: of all decimals with the fewest digits that read back as
the magnitude, the nearest to it. On the grid of decimals with a given count of digits only the
two neighbours of the magnitude have to be tried, because the decimals that read back lie in one
interval around it.
-/

namespace ExprLexer

attribute [local instance (high)] instPowNat

structure Decimal where
  digits : Nat
  exponent : Int
  deriving DecidableEq, Repr

namespace Decimal

def readsBack (magnitude : Magnitude) (decimal : Decimal) : Bool :=
  Binary64.ofScientific false decimal.digits decimal.exponent == .finite false magnitude

/-- The exponent of the leading decimal digit of a magnitude that is not zero. Below one it is
found from the reciprocal, which is never a power of ten. -/
def leadingExponent (magnitude : Magnitude) : Int :=
  if Magnitude.unitsPerOne ≤ magnitude.units then
    (Nat.toDigits 10 (magnitude.units / Magnitude.unitsPerOne)).length - 1
  else -(Nat.toDigits 10 (Magnitude.unitsPerOne / magnitude.units)).length

def stepQuotient (magnitude : Magnitude) : Int → Nat × Nat
  | .ofNat power => (magnitude.units, Magnitude.unitsPerOne * 10 ^ power)
  | .negSucc power => (magnitude.units * 10 ^ (power + 1), Magnitude.unitsPerOne)

/-- The two neighbours of a magnitude among the multiples of `10 ^ exponent`, the nearer first;
halfway between them the even one comes first. -/
def neighbours (magnitude : Magnitude) (exponent : Int) : List Decimal :=
  let (numerator, denominator) := stepQuotient magnitude exponent
  let nearer := roundQuotient numerator denominator
  let farther := 2 * (numerator / denominator) + 1 - nearer
  [⟨nearer, exponent⟩, ⟨farther, exponent⟩]

def withDigits? (magnitude : Magnitude) (leading : Int) (count : Nat) : Option Decimal :=
  (neighbours magnitude (leading - count + 1)).find? (readsBack magnitude)

/-- All digits of a magnitude: one unit is `5 ^ 1074` of the last decimal place. -/
def exact (magnitude : Magnitude) : Decimal := ⟨magnitude.units * 5 ^ (1074 : Nat), -1074⟩

/-- Seventeen digits always suffice; the exact decimal stands after them so that the result
reads back without an argument about their number. -/
def shortest (magnitude : Magnitude) : Decimal :=
  if magnitude.significand = 0 then ⟨0, 0⟩
  else
    ((List.range' 1 17).findSome? (withDigits? magnitude (leadingExponent magnitude))).getD
      (exact magnitude)

end Decimal

end ExprLexer
