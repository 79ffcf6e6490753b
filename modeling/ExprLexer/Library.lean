/-!
What holds for the library as a whole: its version, the names under which it reports, and the
configuration, which a lexer takes over when it is made. Everything is reported under the one name
of the library or below it, so that one switch silences it all.
-/

namespace ExprLexer

def version : String := "0.1.0"

namespace Logger

def root : String := "mathlang"

def lexer : String := "mathlang.lexer.core"

/-- A name at or below the root stays; any other is put below it. -/
def qualify (name : String) : String :=
  if name = root ∨ (root ++ ".").isPrefixOf name then name else root ++ "." ++ name

end Logger

/-- `strictStrings` makes a string that runs off the end of the text an error; otherwise it ends
the tokens. -/
structure LexConfig where
  strictStrings : Bool
  deriving DecidableEq, Repr

namespace LexConfig

def default : LexConfig := ⟨false⟩

/-- The configuration that named settings describe. A setting that is absent keeps its default,
and one that is unknown is ignored. -/
def ofSettings (settings : List (String × Bool)) : LexConfig where
  strictStrings := (settings.lookup "strict_strings").getD default.strictStrings

end LexConfig

end ExprLexer
