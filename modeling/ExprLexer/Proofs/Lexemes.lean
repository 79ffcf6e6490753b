import ExprLexer.Proofs.CharClasses
import ExprLexer.Token.Basic
import Mathlib.Data.List.TakeWhile

/-!
The four languages of lexemes, said of finished texts without a word about reading them. The
class of the first character tells the language, so a text is in at most one of them, and two
lexemes that begin the same text are of one kind.
-/

namespace ExprLexer

open Text

/-- What may follow the first letter of a name. -/
def ContinuesName (character : Char) : Prop :=
  isBlank character = false ∧ isDecimalDigit character = false ∧ character ≠ '"' ∧
    character ∉ ['=', '+', '-', ';']

instance : DecidablePred ContinuesName := fun character =>
  inferInstanceAs (Decidable (isBlank character = false ∧ isDecimalDigit character = false ∧
    character ≠ '"' ∧ character ∉ ['=', '+', '-', ';']))

inductive IsLexeme : TokenKind → List Char → Prop where
  | name {first : Char} {more : List Char} (letter : isLetter first = true)
      (continued : ∀ character ∈ more, ContinuesName character) :
      IsLexeme .name (first :: more)
  | integer {digits : List Char} (present : digits ≠ [])
      (decimal : ∀ character ∈ digits, isDecimalDigit character = true) :
      IsLexeme .number digits
  | pointed {whole fraction : List Char} (present : whole ≠ [])
      (wholeDecimal : ∀ character ∈ whole, isDecimalDigit character = true)
      (fractionDecimal : ∀ character ∈ fraction, isDecimalDigit character = true) :
      IsLexeme .number (whole ++ '.' :: fraction)
  | string {body : List Char}
      (unbroken : ∀ character ∈ body, character ≠ '"' ∧ character ≠ '\n') :
      IsLexeme .string ('"' :: (body ++ ['"']))
  | symbol {character : Char} (listed : character ∈ ['=', '+', '-', ';']) :
      IsLexeme .symbol [character]

/-- A lexeme that begins a text, such that no lexeme of any kind that begins it is longer. -/
structure IsLongestLexeme (text : List Char) (kind : TokenKind) (span : List Char) : Prop where
  lexeme : IsLexeme kind span
  begins : span <+: text
  longest : ∀ other candidate, IsLexeme other candidate → candidate <+: text →
    candidate.length ≤ span.length

/-- A span spells a payload: names and symbols stand for themselves, a string stands between its
quotes, and a number is the value that free number text has. -/
def Payload.SpelledBy (span : List Char) : Payload → Prop
  | .name text => text = .ofChars span
  | .number value => Numeral.readText? span = some value
  | .string text => ∃ body, text = .ofChars body ∧ span = '"' :: (body ++ ['"'])
  | .symbol text => text = .ofChars span

theorem string_spelled {body : List Char} {text : CodeText}
    (spelled : (Payload.string text).SpelledBy ('"' :: (body ++ ['"']))) :
    text = .ofChars body := by
  obtain ⟨other, given, same⟩ := spelled
  rw [given, List.append_cancel_right (List.cons.inj same).2]

theorem listed_iff_symbol {character : Char} :
    character ∈ ['=', '+', '-', ';'] ↔ isSymbol character = true := by
  rw [symbol_iff]
  simp only [List.mem_cons, List.not_mem_nil, or_false]
  tauto

theorem continues_name_iff {character : Char} :
    isNameChar character = true ↔ ContinuesName character := by
  rw [ContinuesName, listed_iff_symbol]
  simp [isNameChar, and_assoc]

def TokenKind.firstClass : TokenKind → CharClass
  | .name => .letter
  | .number => .digit
  | .string => .quote
  | .symbol => .symbol

theorem first_class_injective : Function.Injective TokenKind.firstClass := by
  intro left right same
  cases left <;> cases right <;> first | rfl | contradiction

theorem lexeme_first_class {kind : TokenKind} {span : List Char} (lexeme : IsLexeme kind span) :
    ∃ first more, span = first :: more ∧ CharClass.of first = kind.firstClass := by
  cases lexeme with
  | name letter _ => exact ⟨_, _, rfl, CharClass.of_letter_iff.mpr letter⟩
  | integer present decimal =>
      rcases List.exists_cons_of_ne_nil present with ⟨first, more, rfl⟩
      exact ⟨first, more, rfl, CharClass.of_digit_iff.mpr (decimal first (by simp))⟩
  | @pointed whole fraction present wholeDecimal _ =>
      rcases List.exists_cons_of_ne_nil present with ⟨first, more, rfl⟩
      exact ⟨first, more ++ '.' :: fraction, rfl,
        CharClass.of_digit_iff.mpr (wholeDecimal first (by simp))⟩
  | string _ => exact ⟨_, _, rfl, CharClass.of_quote_iff.mpr rfl⟩
  | symbol listed => exact ⟨_, _, rfl, CharClass.of_symbol_iff.mpr (listed_iff_symbol.mp listed)⟩

theorem lexeme_nonempty {kind : TokenKind} {span : List Char} (lexeme : IsLexeme kind span) :
    span ≠ [] := by
  rcases lexeme_first_class lexeme with ⟨first, more, rfl, _⟩
  exact List.cons_ne_nil first more

theorem lexeme_length_positive {kind : TokenKind} {span : List Char}
    (lexeme : IsLexeme kind span) : 0 < span.length :=
  List.length_pos_iff.mpr (lexeme_nonempty lexeme)

theorem lexeme_prefix_class {kind : TokenKind} {span rest : List Char} {first : Char}
    (lexeme : IsLexeme kind span) (begins : span <+: first :: rest) :
    CharClass.of first = kind.firstClass := by
  rcases lexeme_first_class lexeme with ⟨head, more, rfl, classified⟩
  have same : head = first := (List.cons_prefix_cons.mp begins).1
  rw [← same]
  exact classified

/-- Two lexemes that begin one text are of one kind. -/
theorem lexeme_kind_unique {text left right : List Char} {kind other : TokenKind}
    (leftLexeme : IsLexeme kind left) (leftBegins : left <+: text)
    (rightLexeme : IsLexeme other right) (rightBegins : right <+: text) : kind = other := by
  have nonempty : text ≠ [] := List.IsPrefix.ne_nil leftBegins (lexeme_nonempty leftLexeme)
  rcases List.exists_cons_of_ne_nil nonempty with ⟨first, rest, rfl⟩
  apply first_class_injective
  rw [← lexeme_prefix_class leftLexeme leftBegins, lexeme_prefix_class rightLexeme rightBegins]

end ExprLexer
