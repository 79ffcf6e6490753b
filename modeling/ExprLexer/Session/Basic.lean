import ExprLexer.Lexer.Drain
import ExprLexer.Lexer.Iteration

/-!
Sessions: several lexers, iterations and configuration contexts under names, and the
configuration that is active. What a session keeps of a lexer is found by its number, so an
iteration stays with its lexer when the lexer's name is given to another.
-/

namespace ExprLexer

/-- A context remembers the configuration that was active when it was entered, and whether it
has been left. -/
structure ConfigContext where
  saved : LexConfig
  left : Bool
  deriving DecidableEq, Repr

structure Session where
  active : LexConfig
  /-- Every lexer made so far, in the order of their making. -/
  lexers : List Lexer
  /-- The number of the lexer that each name means; a newer entry hides an older one. -/
  lexerNames : List (String × Nat)
  /-- Each iteration with the number of its lexer. -/
  iterations : List (String × Nat × Iteration)
  contexts : List (String × ConfigContext)
  deriving DecidableEq

namespace Session

def fresh : Session := ⟨.default, [], [], [], []⟩

def withActive (session : Session) (config : LexConfig) : Session :=
  { session with active := config }

def lexer? (session : Session) (name : String) : Option (Nat × Lexer) :=
  (session.lexerNames.lookup name).bind fun number =>
    session.lexers[number]?.map fun lexer => (number, lexer)

def iteration? (session : Session) (name : String) : Option (Nat × Lexer × Iteration) :=
  (session.iterations.lookup name).bind fun entry =>
    session.lexers[entry.1]?.map fun lexer => (entry.1, lexer, entry.2)

def addLexer (session : Session) (name : String) (lexer : Lexer) : Session :=
  { session with
    lexers := session.lexers ++ [lexer]
    lexerNames := (name, session.lexers.length) :: session.lexerNames }

def updateLexer (session : Session) (number : Nat) (lexer : Lexer) : Session :=
  { session with lexers := session.lexers.set number lexer }

def putIteration (session : Session) (name : String) (number : Nat) (iteration : Iteration) :
    Session :=
  { session with iterations := (name, number, iteration) :: session.iterations }

def putContext (session : Session) (name : String) (context : ConfigContext) : Session :=
  { session with contexts := (name, context) :: session.contexts }

def enter (session : Session) (name : String) (config : LexConfig) : Session :=
  (session.putContext name ⟨session.active, false⟩).withActive config

/-- Activates what a context remembers. A context that has been left once does nothing more. -/
def leave (session : Session) (name : String) (context : ConfigContext) : Session :=
  if context.left then session
  else (session.putContext name { context with left := true }).withActive context.saved

end Session

end ExprLexer
