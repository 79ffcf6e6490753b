import ExprLexer.Text.Blank
import ExprLexer.Text.DecimalDigit
import ExprLexer.Text.Letter

/-!
Character classes. Every character is in exactly one, and the class of the first character of a
lexeme decides what kind of lexeme it is.
-/

namespace ExprLexer

inductive CharClass where
  | blank
  | letter
  | digit
  | quote
  | symbol
  | other
  deriving DecidableEq, Repr

def symbolChars : List Char := ['+', '-', ';', '=']

def isSymbol (character : Char) : Bool := symbolChars.contains character

/-- Whether a character may continue a name. Most punctuation may, though only a letter begins
one. -/
def isNameChar (character : Char) : Bool :=
  !(Text.isBlank character || Text.isDecimalDigit character || character == '"' ||
    isSymbol character)

namespace CharClass

/-- All classes, in the order in which they are tried. -/
def all : List CharClass := [blank, letter, digit, quote, symbol, other]

def label : CharClass → String
  | blank => "WHITESPACE"
  | letter => "LETTER"
  | digit => "DIGIT"
  | quote => "QUOTE"
  | symbol => "SYMBOL"
  | other => "OTHER"

def of (character : Char) : CharClass :=
  if Text.isBlank character then blank
  else if Text.isLetter character then letter
  else if Text.isDecimalDigit character then digit
  else if character = '"' then quote
  else if isSymbol character then symbol
  else other

end CharClass

end ExprLexer
