import ExprLexer.Text.CodePoint
import ExprLexer.Text.Printable

/-!
Text as diagnostics show it: between quotes, on one line, with every character that does not
print written as an escape. Whatever the text, its quoted form holds printable characters only.
-/

namespace ExprLexer.Text

/-- Single quotes, unless the text holds one and no double quote. -/
def quoteMark (text : CodeText) : Char :=
  if .char '\'' ∈ text ∧ .char '"' ∉ text then '"' else '\''

/-- The three widths of a numeric escape: two, four or eight hexadecimal digits, whichever is the
least that holds the code point. -/
def numericEscape (code : Nat) : List Char :=
  if code < 0x100 then '\\' :: 'x' :: hexDigits 2 code
  else if code < 0x10000 then '\\' :: 'u' :: hexDigits 4 code
  else '\\' :: 'U' :: hexDigits 8 code

def quoteChar (mark character : Char) : List Char :=
  if character = '\\' ∨ character = mark then ['\\', character]
  else if character = '\n' then ['\\', 'n']
  else if character = '\r' then ['\\', 'r']
  else if character = '\t' then ['\\', 't']
  else if isPrintable character then [character]
  else numericEscape character.toNat

/-- A surrogate is no character, so it does not print. -/
def quotePoint (mark : Char) : CodePoint → List Char
  | .char character => quoteChar mark character
  | .surrogate index => numericEscape (CodePoint.surrogate index).toNat

def quoteChars (text : CodeText) : List Char :=
  quoteMark text :: (text.flatMap (quotePoint (quoteMark text)) ++ [quoteMark text])

def quote (text : CodeText) : String := String.ofList (quoteChars text)

end ExprLexer.Text
