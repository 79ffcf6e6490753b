/-!
Places in a text. An offset counts the characters before a place; lines and columns count from
one, and only a line feed begins a new line.
-/

namespace ExprLexer.Text

structure Position where
  offset : Nat
  line : Nat
  column : Nat
  deriving DecidableEq, Repr

namespace Position

def start : Position := ⟨0, 1, 1⟩

def advance (position : Position) (character : Char) : Position :=
  if character = '\n' then ⟨position.offset + 1, position.line + 1, 1⟩
  else ⟨position.offset + 1, position.line, position.column + 1⟩

def after (position : Position) (text : List Char) : Position :=
  text.foldl advance position

@[simp] theorem after_nil (position : Position) : position.after [] = position := rfl

@[simp] theorem after_cons (position : Position) (character : Char) (text : List Char) :
    position.after (character :: text) = (position.advance character).after text := rfl

theorem after_append (position : Position) (first second : List Char) :
    position.after (first ++ second) = (position.after first).after second := by
  simp [after]

theorem offset_advance (position : Position) (character : Char) :
    (position.advance character).offset = position.offset + 1 := by
  unfold advance
  split <;> rfl

theorem offset_after (position : Position) (text : List Char) :
    (position.after text).offset = position.offset + text.length := by
  induction text generalizing position with
  | nil => rfl
  | cons character text induction =>
      simp only [after_cons, induction, offset_advance, List.length_cons]
      omega

end Position

end ExprLexer.Text
