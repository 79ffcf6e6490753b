import ExprLexer.Text.Quoted

/-!
What a lexer reports while it works. Each error is reported before it is raised, and so is a
string that the end of the text cuts off where that is no error.
-/

namespace ExprLexer

inductive LogLevel where
  | debug
  | warning
  deriving DecidableEq, Repr

def LogLevel.label : LogLevel → String
  | debug => "DEBUG"
  | warning => "WARNING"

inductive LogEvent where
  | unrecognizedCharacter (character : Char) (offset : Nat)
  | unterminatedString (offset : Nat)
  | abandonedString (line column : Nat)
  deriving DecidableEq, Repr

namespace LogEvent

def level : LogEvent → LogLevel
  | unrecognizedCharacter _ _ => .debug
  | unterminatedString _ => .debug
  | abandonedString _ _ => .warning

def message : LogEvent → String
  | unrecognizedCharacter character offset =>
      "Unrecognized character " ++ Text.quote (String.singleton character) ++ " at offset " ++
        toString offset
  | unterminatedString offset => "Unterminated string literal at offset " ++ toString offset
  | abandonedString line column =>
      "Unterminated string at " ++ toString line ++ ":" ++ toString column ++
        " runs to end of input; treating as end of input"

end LogEvent

end ExprLexer
