import ExprLexer.Binary64.Rounding
import ExprLexer.Text.DecimalDigit

/-!
Numerals: the parts of a number as written, before any rounding. The digits may be of any
script; the exponent is that of ten.
-/

namespace ExprLexer

structure Numeral where
  negative : Bool
  whole : List Char
  fraction : List Char
  exponent : Int
  deriving DecidableEq, Repr

namespace Numeral

def digits (numeral : Numeral) : Nat :=
  Text.naturalOfDigits (numeral.whole ++ numeral.fraction)

def toBinary64 (numeral : Numeral) : Binary64 :=
  Binary64.ofScientific numeral.negative numeral.digits
    (numeral.exponent - numeral.fraction.length)

end Numeral

end ExprLexer
