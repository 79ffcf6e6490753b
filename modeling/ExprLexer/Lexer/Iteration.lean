import ExprLexer.Lexer.Basic

/-!
Iterations: lazy readers over a lexer that others may read from as well. An iteration holds no
text of its own; it only remembers that it is over. Once over it never touches the lexer again,
although the lexer itself would still answer.
-/

namespace ExprLexer

structure Iteration where
  ended : Bool
  deriving DecidableEq, Repr

/-- One step of an iteration: the lexer's answer, or none since the iteration was over. -/
structure Pull where
  outcome : Outcome
  events : List LogEvent
  iteration : Iteration
  lexer : Lexer
  deriving DecidableEq

namespace Iteration

def fresh : Iteration := ⟨false⟩

/-- An iteration is over after the first answer that is no token. -/
def isLast : Outcome → Bool
  | .token _ => false
  | .finished => true
  | .failed _ => true

def pull (iteration : Iteration) (lexer : Lexer) : Pull :=
  if iteration.ended then ⟨.finished, [], iteration, lexer⟩
  else ⟨lexer.next.outcome, lexer.next.events, ⟨isLast lexer.next.outcome⟩, lexer.next.lexer⟩

end Iteration

end ExprLexer
