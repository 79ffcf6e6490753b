/-!
Binary floating-point numbers of 64 bits as exact values. A finite magnitude counts units of
`2 ^ -1074`, the least positive number of the format, so every question about one is a question
about natural numbers.
-/

namespace ExprLexer

-- Powers are those of the natural numbers themselves, with no algebra above them.
attribute [local instance (high)] instPowNat

/-- A finite magnitude, `significand * 2 ^ shift` units. The significand has 53 bits, and fewer
only where the shift is zero, so each magnitude has exactly one form. -/
structure Magnitude where
  significand : Nat
  shift : Nat
  significand_lt : significand < 2 ^ (53 : Nat)
  shift_le : shift ≤ 2045
  normal : shift = 0 ∨ 2 ^ (52 : Nat) ≤ significand
  deriving DecidableEq

namespace Magnitude

/-- The magnitude in units of `2 ^ -1074`. -/
def units (magnitude : Magnitude) : Nat := magnitude.significand * 2 ^ magnitude.shift

def unitsPerOne : Nat := 2 ^ (1074 : Nat)

end Magnitude

/-- A number of the format. Zero keeps its sign; all that is no number is one value. -/
inductive Binary64 where
  | nan
  | infinity (negative : Bool)
  | finite (negative : Bool) (magnitude : Magnitude)
  deriving DecidableEq

namespace Binary64

/-- The numeric comparison, under which the two zeros are equal and a value that is no number
equals nothing, itself included. -/
def numericallyEqual : Binary64 → Binary64 → Bool
  | nan, _ => false
  | _, nan => false
  | infinity negative, infinity negative' => negative == negative'
  | finite negative magnitude, finite negative' magnitude' =>
      magnitude == magnitude' && (negative == negative' || magnitude.significand == 0)
  | _, _ => false

end Binary64

end ExprLexer
