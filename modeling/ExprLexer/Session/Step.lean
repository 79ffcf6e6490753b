import ExprLexer.Session.Basic

/-!
The steps of a session and what they answer. Blocks run under a configuration of their own and
threads under the default one; both give back the configuration that was active before them.
-/

namespace ExprLexer

inductive Step where
  | make (name source : String) (file : Option String)
  | read (lexer : String)
  | drain (lexer : String)
  | inspect (lexer : String)
  | iterate (lexer iteration : String)
  | pull (iteration : String)
  | setConfig (config : LexConfig)
  | resetConfig
  | getConfig
  | enter (context : String) (config : LexConfig)
  | leave (context : String)
  /-- Runs steps under a configuration, up to the first error if asked to. -/
  | within (config : LexConfig) (stopAtError : Bool) (steps : List Step)
  | thread (steps : List Step)

inductive Answer where
  | made (lexer : Lexer)
  | read (reading : Reading)
  | drained (run : Run)
  | inspected (lexer : Lexer)
  | iterating (lexer : Lexer)
  | pulled (pull : Pull)
  | configured (active : LexConfig)
  | nested (inner : List Answer) (active : LexConfig)
  | unknownName (name : String)

namespace Answer

/-- Whether a step itself ended in an error; the errors of steps inside it do not count. -/
def isError : Answer → Bool
  | read reading => reading.outcome.isFailure
  | drained run => run.error.isSome
  | pulled pull => pull.outcome.isFailure
  | _ => false

end Answer

namespace Session

def make (session : Session) (name source : String) (file : Option String) : Answer × Session :=
  let lexer := Lexer.ofSource source file session.active
  (.made lexer, session.addLexer name lexer)

def read (session : Session) (name : String) : Answer × Session :=
  match session.lexer? name with
  | none => (.unknownName name, session)
  | some (number, lexer) => (.read lexer.next, session.updateLexer number lexer.next.lexer)

def drain (session : Session) (name : String) : Answer × Session :=
  match session.lexer? name with
  | none => (.unknownName name, session)
  | some (number, lexer) => (.drained lexer.drain, session.updateLexer number lexer.drain.lexer)

def inspect (session : Session) (name : String) : Answer × Session :=
  match session.lexer? name with
  | none => (.unknownName name, session)
  | some (_, lexer) => (.inspected lexer, session)

def iterate (session : Session) (lexerName name : String) : Answer × Session :=
  match session.lexer? lexerName with
  | none => (.unknownName lexerName, session)
  | some (number, lexer) => (.iterating lexer, session.putIteration name number .fresh)

def pull (session : Session) (name : String) : Answer × Session :=
  match session.iteration? name with
  | none => (.unknownName name, session)
  | some (number, lexer, iteration) =>
      let pull := iteration.pull lexer
      (.pulled pull, (session.updateLexer number pull.lexer).putIteration name number
        pull.iteration)

def answerConfig (session : Session) : Answer × Session :=
  (.configured session.active, session)

def leaveNamed (session : Session) (name : String) : Answer × Session :=
  match session.contexts.lookup name with
  | none => (.unknownName name, session)
  | some context => (session.leave name context).answerConfig

/-- Closes a block or thread: its answers, and the session with the configuration that was
active before. -/
def close (before : LexConfig) (inner : List Answer × Session) : Answer × Session :=
  (.nested inner.1 before, inner.2.withActive before)

mutual

def step (session : Session) : Step → Answer × Session
  | .make name source file => session.make name source file
  | .read name => session.read name
  | .drain name => session.drain name
  | .inspect name => session.inspect name
  | .iterate lexerName name => session.iterate lexerName name
  | .pull name => session.pull name
  | .setConfig config => (session.withActive config).answerConfig
  | .resetConfig => (session.withActive .default).answerConfig
  | .getConfig => session.answerConfig
  | .enter name config => (session.enter name config).answerConfig
  | .leave name => session.leaveNamed name
  | .within config stopAtError steps =>
      close session.active (run stopAtError (session.withActive config) steps)
  | .thread steps => close session.active (run false (session.withActive .default) steps)

/-- Steps one after the other; if asked to, nothing is run after the first that ends in an
error. -/
def run (stopAtError : Bool) (session : Session) : List Step → List Answer × Session
  | [] => ([], session)
  | first :: later =>
      let (answer, next) := session.step first
      if stopAtError && answer.isError then ([answer], next)
      else
        let (answers, last) := run stopAtError next later
        (answer :: answers, last)

end

end Session

end ExprLexer
