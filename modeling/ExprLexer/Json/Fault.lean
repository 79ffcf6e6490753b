import ExprLexer.Text.Position

/-!
What can be wrong with a JSON text, and how it is told. Reading goes from left to right and
stops at the first fault, so a text has at most one.
-/

namespace ExprLexer.Json

inductive Malformation where
  | byteOrderMark
  | valueExpected
  | commaExpected
  | colonExpected
  | keyExpected
  | extraData
  | unterminatedString
  | controlCharacter
  | invalidEscape
  | invalidUnicodeEscape
  deriving DecidableEq, Repr

def Malformation.description : Malformation → String
  | byteOrderMark => "Unexpected UTF-8 BOM (decode using utf-8-sig)"
  | valueExpected => "Expecting value"
  | commaExpected => "Expecting ',' delimiter"
  | colonExpected => "Expecting ':' delimiter"
  | keyExpected => "Expecting property name enclosed in double quotes"
  | extraData => "Extra data"
  | unterminatedString => "Unterminated string starting at"
  | controlCharacter => "Invalid control character at"
  | invalidEscape => "Invalid \\escape"
  | invalidUnicodeEscape => "Invalid \\uXXXX escape"

/-- The greatest count of digits that an integer may have. -/
def integerDigitLimit : Nat := 4300

/-- Where a reader stopped: the departure with the text that was left, or an integer that has
too many digits. -/
inductive Stop where
  | malformed (malformation : Malformation) (rest : List Char)
  | oversizedInteger (digitCount : Nat)
  deriving DecidableEq, Repr

inductive ReadError where
  | malformed (malformation : Malformation) (position : Text.Position)
  | oversizedInteger (digitCount : Nat)
  deriving DecidableEq, Repr

/-- A departure is placed by the text that stands before what was left. -/
def Stop.toReadError (text : List Char) : Stop → ReadError
  | malformed malformation rest =>
      .malformed malformation
        (Text.Position.start.after (text.take (text.length - rest.length)))
  | oversizedInteger digitCount => .oversizedInteger digitCount

def ReadError.message : ReadError → String
  | malformed malformation position =>
      malformation.description ++ ": line " ++ toString position.line ++ " column " ++
        toString position.column ++ " (char " ++ toString position.offset ++ ")"
  | oversizedInteger digitCount =>
      "Exceeds the limit (" ++ toString integerDigitLimit ++
        " digits) for integer string conversion: value has " ++ toString digitCount ++
        " digits; use sys.set_int_max_str_digits() to increase the limit"

end ExprLexer.Json
