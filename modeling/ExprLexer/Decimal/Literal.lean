import ExprLexer.Decimal.Numeral
import ExprLexer.Text.Blank
import ExprLexer.Text.Trim

/-!
Free number text, more liberal than a number token: blanks around it, a sign, the words for
infinity and for no number in any case, underscores between digits, a missing whole part or
fraction, an exponent. Digits may be of any script.
-/

namespace ExprLexer.Numeral

open Text

/-- Blanks that may surround number text: all but the four information separators. -/
def isMargin (character : Char) : Bool :=
  isBlank character && !(0x1c ≤ character.toNat && character.toNat ≤ 0x1f)

def trimMargins (text : List Char) : List Char :=
  trimEnd isMargin (text.dropWhile isMargin)

def startsWithDigit : List Char → Bool
  | [] => false
  | character :: _ => isDecimalDigit character

/-- Removes the underscores of a text, provided each stands between two digits. -/
def removeUnderscores? (afterDigit : Bool) : List Char → Option (List Char)
  | [] => some []
  | character :: rest =>
      if character = '_' then
        if afterDigit && startsWithDigit rest then removeUnderscores? false rest else none
      else (removeUnderscores? (isDecimalDigit character) rest).map (character :: ·)

def splitSign : List Char → Bool × List Char
  | '-' :: rest => (true, rest)
  | '+' :: rest => (false, rest)
  | text => (false, text)

def exponentOf? : List Char → Option Int
  | [] => some 0
  | mark :: rest =>
      let (negative, digits) := splitSign rest
      if (mark = 'e' ∨ mark = 'E') ∧ digits ≠ [] ∧ digits.all isDecimalDigit then
        let size : Int := naturalOfDigits digits
        some (if negative then -size else size)
      else none

def splitFraction : List Char → List Char × List Char
  | '.' :: rest => (rest.takeWhile isDecimalDigit, rest.dropWhile isDecimalDigit)
  | text => ([], text)

def ofDigits? (negative : Bool) (text : List Char) : Option Numeral :=
  let whole := text.takeWhile isDecimalDigit
  let (fraction, rest) := splitFraction (text.dropWhile isDecimalDigit)
  if whole = [] ∧ fraction = [] then none
  else (exponentOf? rest).map fun exponent => ⟨negative, whole, fraction, exponent⟩

def unsigned? (negative : Bool) (text : List Char) : Option Binary64 :=
  let word := String.ofList (text.map Char.toLower)
  if word = "inf" ∨ word = "infinity" then some (.infinity negative)
  else if word = "nan" then some .nan
  else (removeUnderscores? false text).bind fun bare =>
    (ofDigits? negative bare).map toBinary64

def readText? (text : List Char) : Option Binary64 :=
  let (negative, unsigned) := splitSign (trimMargins text)
  unsigned? negative unsigned

end ExprLexer.Numeral
