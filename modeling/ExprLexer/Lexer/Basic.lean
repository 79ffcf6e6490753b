import ExprLexer.LexError
import ExprLexer.Lexer.Front
import ExprLexer.Library
import ExprLexer.LogEvent
import ExprLexer.Text.Position

/-!
A lexer reads a text one token at a time. Its state is what is left of the text and the place
reached; each reading skips blanks, takes the lexeme that follows and moves behind it. A reading
that fails leaves the lexer at the front of what it could not read, so the next one fails alike.
-/

namespace ExprLexer

structure Lexer where
  rest : List Char
  position : Text.Position
  file : Option String
  config : LexConfig
  deriving DecidableEq

inductive Outcome where
  | token (token : Token)
  | finished
  | failed (error : LexError)
  deriving DecidableEq

def Outcome.isFailure : Outcome → Bool
  | token _ => false
  | finished => false
  | failed _ => true

structure Reading where
  outcome : Outcome
  events : List LogEvent
  lexer : Lexer
  deriving DecidableEq

namespace Lexer

def ofSource (source : String) (file : Option String) (config : LexConfig) : Lexer :=
  ⟨source.toList, .start, file, config⟩

def atEnd (lexer : Lexer) : Bool := lexer.rest.all Text.isBlank

def consume (lexer : Lexer) (span : List Char) : Lexer :=
  { lexer with
    rest := lexer.rest.drop span.length
    position := lexer.position.after span }

def skipBlanks (lexer : Lexer) : Lexer := lexer.consume (lexer.rest.takeWhile Text.isBlank)

def locate (lexer : Lexer) (span : List Char) : Location where
  line := lexer.position.line
  column := lexer.position.column
  offset := lexer.position.offset
  endOffset := (lexer.position.after span).offset
  file := lexer.file

def errorAt (lexer : Lexer) (fault : LexFault) (place : Text.Position) : LexError where
  fault := fault
  line := some place.line
  column := some place.column
  offset := some place.offset
  file := lexer.file

/-- A string that begins here and has no end is reported where its end was missed. -/
def unterminated (lexer : Lexer) (body : List Char) : Reading :=
  let place := lexer.position.after ('"' :: body)
  ⟨.failed (lexer.errorAt .unterminatedString place), [.unterminatedString place.offset], lexer⟩

def readFront (lexer : Lexer) : Reading :=
  match Front.of lexer.rest with
  | .nothing => ⟨.finished, [], lexer⟩
  | .lexeme payload span => ⟨.token ⟨payload, lexer.locate span⟩, [], lexer.consume span⟩
  | .unrecognized character =>
      ⟨.failed (lexer.errorAt (.unrecognizedCharacter (String.singleton character))
          lexer.position),
        [.unrecognizedCharacter character lexer.position.offset], lexer⟩
  | .brokenString body => lexer.unterminated body
  | .openString body =>
      if lexer.config.strictStrings then lexer.unterminated body
      else
        ⟨.finished, [.abandonedString lexer.position.line lexer.position.column],
          lexer.consume ('"' :: body)⟩

def next (lexer : Lexer) : Reading := lexer.skipBlanks.readFront

end Lexer

end ExprLexer
