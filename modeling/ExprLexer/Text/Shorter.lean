/-!
What a reader leaves of a text. A reader that consumes something returns a shorter rest, and the
type says so; loops over readers end because of it.
-/

namespace ExprLexer.Text

abbrev Shorter (text : List Char) := { rest : List Char // rest.length < text.length }

theorem Shorter.length_le {text : List Char} (rest : Shorter text) :
    rest.val.length ≤ text.length := Nat.le_of_lt rest.property

def Shorter.widen {text whole : List Char} (rest : Shorter text)
    (within : text.length ≤ whole.length) : Shorter whole :=
  ⟨rest.val, Nat.lt_of_lt_of_le rest.property within⟩

@[simp] theorem Shorter.val_widen {text whole : List Char} (rest : Shorter text)
    (within : text.length ≤ whole.length) : (rest.widen within).val = rest.val := rfl

theorem length_drop_while_le (drops : Char → Bool) (text : List Char) :
    (text.dropWhile drops).length ≤ text.length :=
  (List.dropWhile_sublist drops).length_le

def afterWord? : List Char → List Char → Option (List Char)
  | [], text => some text
  | _ :: _, [] => none
  | letter :: word, character :: text =>
      if letter = character then afterWord? word text else none

theorem after_word_eq_some_iff {word text rest : List Char} :
    afterWord? word text = some rest ↔ text = word ++ rest := by
  induction word generalizing text with
  | nil => simp [afterWord?]
  | cons letter word induction =>
      cases text with
      | nil => simp [afterWord?]
      | cons character text =>
          by_cases same : letter = character
          · simp [afterWord?, same, induction]
          · simp [afterWord?, same, Ne.symm same]

end ExprLexer.Text
