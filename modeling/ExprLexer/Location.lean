import ExprLexer.Text.Quoted

/-!
Where a token stands. Lines and columns count from one, offsets from zero, and the end offset is
that of the first character behind the token. A location that somebody made up may hold any
integers.
-/

namespace ExprLexer

structure Location where
  line : Int
  column : Int
  offset : Int
  endOffset : Int
  file : Option String
  deriving DecidableEq, Repr

namespace Location

def unknown : Location := ⟨0, 0, 0, 0, none⟩

/-- How many characters the token covers; a reversed span covers none. -/
def length (location : Location) : Nat := (location.endOffset - location.offset).toNat

def text (location : Location) : String :=
  let place := toString location.line ++ ":" ++ toString location.column
  match location.file with
  | none => place
  | some file => if file = "" then place else file ++ ":" ++ place

def fieldText (location : Location) : String :=
  "SourceLocation(lineno=" ++ toString location.line ++
    ", col_offset=" ++ toString location.column ++
    ", offset=" ++ toString location.offset ++
    ", end_offset=" ++ toString location.endOffset ++
    ", source_file=" ++ (location.file.elim "None" fun file => Text.quote file) ++ ")"

end Location

end ExprLexer
