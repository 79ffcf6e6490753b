import ExprLexer.Lexer.Progress

/-!
Reading on until no token comes.
-/

namespace ExprLexer

/-- A whole run: the tokens delivered, the error that ended them if one did, all reports in
order, and the lexer afterwards. -/
structure Run where
  tokens : List Token
  error : Option LexError
  events : List LogEvent
  lexer : Lexer
  deriving DecidableEq

def Run.cons (token : Token) (events : List LogEvent) (run : Run) : Run :=
  { run with tokens := token :: run.tokens, events := events ++ run.events }

namespace Lexer

/-- All tokens up to the end of the text or the first error. -/
def drain (lexer : Lexer) : Run :=
  match _ : lexer.next.outcome with
  | .token token => .cons token lexer.next.events lexer.next.lexer.drain
  | .finished => ⟨[], none, lexer.next.events, lexer.next.lexer⟩
  | .failed error => ⟨[], some error, lexer.next.events, lexer.next.lexer⟩
termination_by lexer.rest.length
decreasing_by exact length_rest_next_lt (by assumption)

def readings (lexer : Lexer) : List Reading :=
  match _ : lexer.next.outcome with
  | .token _ => lexer.next :: lexer.next.lexer.readings
  | .finished => [lexer.next]
  | .failed _ => [lexer.next]
termination_by lexer.rest.length
decreasing_by exact length_rest_next_lt (by assumption)

def readTimes (lexer : Lexer) : Nat → List Reading
  | 0 => []
  | count + 1 => lexer.next :: lexer.next.lexer.readTimes count

def afterReadings (lexer : Lexer) (readings : List Reading) : Lexer :=
  (readings.getLast?.map Reading.lexer).getD lexer

def readingsAndMore (lexer : Lexer) (extra : Nat) : List Reading :=
  lexer.readings ++ (lexer.afterReadings lexer.readings).readTimes extra

end Lexer

def tokenize (source : String) (file : Option String) (config : LexConfig) : Run :=
  (Lexer.ofSource source file config).drain

end ExprLexer
