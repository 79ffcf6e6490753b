import ExprLexer.Text.Quoted
import ExprLexer.Text.Trim

/-!
Lexical errors: what was wrong, and where. The message tells the place first, as far as it is
known.
-/

namespace ExprLexer

inductive LexFault where
  | unterminatedString
  | unrecognizedCharacter (text : String)
  | general (message : String)
  deriving DecidableEq, Repr

def LexFault.message : LexFault → String
  | unterminatedString => "unterminated string literal"
  | unrecognizedCharacter text => "unrecognized character " ++ Text.quote text
  | general message => message

structure LexError where
  fault : LexFault
  line : Option Int
  column : Option Int
  offset : Option Int
  file : Option String
  deriving DecidableEq, Repr

namespace LexError

def message (error : LexError) : String := error.fault.message

/-- The file if it has a name, the line if there is one, the column behind a line. -/
def placeParts (error : LexError) : List String :=
  (match error.file with
    | none => []
    | some file => if file = "" then [] else [file]) ++
  (match error.line, error.column with
    | none, _ => []
    | some line, none => [toString line]
    | some line, some column => [toString line, toString column])

/-- The parts joined by colons. Colons that end the whole are dropped. -/
def place (parts : List String) : String :=
  String.ofList (Text.trimEnd (· == ':') (String.intercalate ":" parts).toList)

/-- The place, a space and the message, or the message alone where no part is known. -/
def text (error : LexError) : String :=
  match error.placeParts with
  | [] => error.message
  | parts => place parts ++ " " ++ error.message

end LexError

end ExprLexer
