import ExprLexer.Decimal.Shortest
import ExprLexer.Text.Trim

/-!
Number text. The digits are the shortest that read back; a layout decides the rest: the words
for what has no digits, where positional writing begins and ends, and how an exponent is shown.
-/

namespace ExprLexer

structure NumberLayout where
  notNumber : String
  infinity : String
  /-- The least exponent of the leading digit that is written positionally. -/
  leastPositional : Int
  /-- The least exponent above those that is written with an exponent again. -/
  leastScientific : Int
  exponentMark : Char
  exponentWidth : Nat

namespace NumberLayout

/-- Diagnostics write `5.0`, `1e+16`, `1.5e-05`, `inf` and `nan`. -/
def diagnostic : NumberLayout where
  notNumber := "nan"
  infinity := "inf"
  leastPositional := -4
  leastScientific := 16
  exponentMark := 'e'
  exponentWidth := 2

/-- Digits with a point after the first `whole` of them. Both sides of the point hold at least
one digit, zeros filling what is missing. -/
def withPoint (digits : List Char) (whole : Nat) : List Char :=
  let padded := digits ++ List.replicate (whole - digits.length) '0'
  let before := padded.take whole
  let behind := padded.drop whole
  (if before = [] then ['0'] else before) ++ '.' :: (if behind = [] then ['0'] else behind)

def positional (digits : List Char) (leading : Int) : List Char :=
  match leading with
  | .ofNat power => withPoint digits (power + 1)
  | .negSucc power => withPoint (List.replicate power '0' ++ digits) 0

def exponentText (layout : NumberLayout) (exponent : Int) : List Char :=
  let digits := Nat.toDigits 10 exponent.natAbs
  (if exponent < 0 then '-' else '+') ::
    (List.replicate (layout.exponentWidth - digits.length) '0' ++ digits)

def scientific (layout : NumberLayout) (digits : List Char) (leading : Int) : List Char :=
  (match digits with
    | [] => ['0']
    | [digit] => [digit]
    | digit :: others => digit :: '.' :: others) ++
  layout.exponentMark :: layout.exponentText leading

/-- Zeros that end the digits carry no information and are dropped. -/
def decimalText (layout : NumberLayout) (decimal : Decimal) : List Char :=
  let digits := Nat.toDigits 10 decimal.digits
  let leading := digits.length + decimal.exponent - 1
  let significant := Text.trimEnd (· == '0') digits
  if layout.leastPositional ≤ leading ∧ leading < layout.leastScientific then
    positional significant leading
  else layout.scientific significant leading

def signText (negative : Bool) : List Char := if negative then ['-'] else []

def text (layout : NumberLayout) : Binary64 → List Char
  | .nan => layout.notNumber.toList
  | .infinity negative => signText negative ++ layout.infinity.toList
  | .finite negative magnitude =>
      signText negative ++ layout.decimalText (Decimal.shortest magnitude)

end NumberLayout

def Binary64.toDiagnostic (number : Binary64) : String :=
  String.ofList (NumberLayout.diagnostic.text number)

end ExprLexer
