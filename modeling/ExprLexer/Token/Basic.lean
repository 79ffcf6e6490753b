import ExprLexer.Binary64.Rounding
import ExprLexer.CharClass
import ExprLexer.Decimal.Layout
import ExprLexer.Decimal.Literal
import ExprLexer.Location

/-!
Tokens: what was read, and where. Two tokens are equal when they were read alike, wherever they
stand.
-/

namespace ExprLexer

open Text (CodeText)

inductive TokenKind where
  | name
  | number
  | string
  | symbol
  deriving DecidableEq, Repr

namespace TokenKind

def all : List TokenKind := [name, number, string, symbol]

def label : TokenKind → String
  | name => "NAME"
  | number => "NUMBER"
  | string => "STRING"
  | symbol => "SYMBOL"

def ofLabel? (label : CodeText) : Option TokenKind :=
  all.find? fun kind => (kind.label : CodeText) == label

theorem of_label_label (kind : TokenKind) : ofLabel? kind.label = some kind := by
  cases kind <;> decide

end TokenKind

/-- What a token says: its kind with the text of a name, string or symbol, or the value of a
number. A string stands without its quotes. -/
inductive Payload where
  | name (text : CodeText)
  | number (value : Binary64)
  | string (text : CodeText)
  | symbol (text : CodeText)
  deriving DecidableEq

namespace Payload

def kind : Payload → TokenKind
  | name _ => .name
  | number _ => .number
  | string _ => .string
  | symbol _ => .symbol

/-- Payloads of one kind with the same text, or with values that are numerically equal. -/
def agrees : Payload → Payload → Bool
  | name text, name text' => text == text'
  | number value, number value' => value.numericallyEqual value'
  | string text, string text' => text == text'
  | symbol text, symbol text' => text == text'
  | _, _ => false

def shownLength : Nat := 20

/-- A text as a token shows it: one that is too long ends in three points. -/
def abbreviate (text : CodeText) : CodeText :=
  if shownLength < text.length then text.take (shownLength - 3) ++ ("..." : CodeText) else text

def showText (text : CodeText) : String := Text.quote (abbreviate text)

def shown : Payload → String
  | name text => showText text
  | number value => value.toDiagnostic
  | string text => showText text
  | symbol text => showText text

end Payload

structure Token where
  payload : Payload
  location : Location
  deriving DecidableEq

inductive TokenError where
  | notSymbol (text : CodeText)
  | notNumber (text : CodeText)
  | integerTooLarge
  deriving DecidableEq, Repr

def TokenError.message : TokenError → String
  | notSymbol text => "Not a symbol character: " ++ Text.quote text
  | notNumber text => "could not convert string to float: " ++ Text.quote text
  | integerTooLarge => "int too large to convert to float"

/-- What kind of failure a caller is told of: a value that is not as it must be, or one that is
but does not fit into a number. -/
inductive ErrorClass where
  | badValue
  | overflow
  deriving DecidableEq, Repr

def TokenError.errorClass : TokenError → ErrorClass
  | notSymbol _ => .badValue
  | notNumber _ => .badValue
  | integerTooLarge => .overflow

/-- The payload of a kind that a text gives. The text of a number is read freely; that of a
symbol may be any. -/
def Payload.ofText (kind : TokenKind) (text : String) : Except TokenError Payload :=
  match kind with
  | .name => .ok (.name text)
  | .string => .ok (.string text)
  | .symbol => .ok (.symbol text)
  | .number =>
      match Numeral.readText? text.toList with
      | some value => .ok (.number value)
      | none => .error (.notNumber text)

namespace Token

def ofPayload (payload : Payload) : Token := ⟨payload, .unknown⟩

def name (text : CodeText) : Token := ofPayload (.name text)

def number (value : Binary64) : Token := ofPayload (.number value)

def string (text : CodeText) : Token := ofPayload (.string text)

def integer (value : Int) : Except TokenError Token :=
  (Binary64.ofInt? value).elim (.error .integerTooLarge) fun value => .ok (number value)

def symbol (text : CodeText) : Except TokenError Token :=
  match text with
  | [.char character] =>
      if isSymbol character then .ok (ofPayload (.symbol text)) else .error (.notSymbol text)
  | _ => .error (.notSymbol text)

/-- Equality of tokens looks at the payload alone. -/
def agrees (token other : Token) : Bool := token.payload.agrees other.payload

def shown (token : Token) : String :=
  "Token(" ++ token.payload.kind.label ++ ", " ++ token.payload.shown ++ ", " ++
    toString token.location.line ++ ":" ++ toString token.location.column ++ ")"

/-- Tokens of which no two are equal: of equal ones the first. -/
def distinct (tokens : List Token) : List Token :=
  tokens.foldl
    (fun kept token => if kept.any (·.agrees token) then kept else kept ++ [token]) []

def allAgree : List Token → List Token → Bool
  | [], [] => true
  | token :: tokens, other :: others => token.agrees other && allAgree tokens others
  | _, _ => false

end Token

end ExprLexer
