import ExprLexer.CharClass
import ExprLexer.Decimal.Numeral
import ExprLexer.Token.Basic

/-!
What stands at the front of a text that does not begin with a blank. The class of the first
character selects the kind of lexeme, and the lexeme is the longest stretch of that kind.
-/

namespace ExprLexer

open Text

/-- The front of a text: a lexeme with the payload it carries, or the reason why there is none.
A string without an end is given by what it holds up to the line feed or the end of the text. -/
inductive Front where
  | nothing
  | lexeme (payload : Payload) (span : List Char)
  | unrecognized (character : Char)
  | brokenString (body : List Char)
  | openString (body : List Char)
  deriving DecidableEq

namespace Front

def ofName (first : Char) (rest : List Char) : Front :=
  let span := first :: rest.takeWhile isNameChar
  .lexeme (.name (.ofChars span)) span

def isStringChar (character : Char) : Bool := character != '"' && character != '\n'

def ofQuote (rest : List Char) : Front :=
  let body := rest.takeWhile isStringChar
  match rest.dropWhile isStringChar with
  | [] => .openString body
  | stop :: _ =>
      if stop = '"' then .lexeme (.string (.ofChars body)) ('"' :: (body ++ ['"']))
      else .brokenString body

/-- Digits, then a point if it follows at once, then more digits if those follow at once. -/
def ofDigits (text : List Char) : Front :=
  let whole := text.takeWhile isDecimalDigit
  match text.dropWhile isDecimalDigit with
  | '.' :: rest =>
      let fraction := rest.takeWhile isDecimalDigit
      .lexeme (.number (Numeral.toBinary64 ⟨false, whole, fraction, 0⟩))
        (whole ++ '.' :: fraction)
  | _ => .lexeme (.number (Numeral.toBinary64 ⟨false, whole, [], 0⟩)) whole

def of : List Char → Front
  | [] => .nothing
  | first :: rest =>
      match CharClass.of first with
      | .letter => ofName first rest
      | .digit => ofDigits (first :: rest)
      | .quote => ofQuote rest
      | .symbol => .lexeme (.symbol [.char first]) [first]
      | .blank | .other => .unrecognized first

end Front

end ExprLexer
