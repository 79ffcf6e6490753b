import ExprLexer.CharClass
import ExprLexer.Text.CodePoint
import Mathlib.Data.List.Basic

/-!
No code point is in two of the tables of blanks, letters and decimal digits, and neither the
quote nor a symbol is in any of them. A class is therefore its own table alone, whatever the
order in which the classes are tried.
-/

namespace ExprLexer

namespace Text

namespace CodeRanges

/-- Whether a closed range reaches into one of the ranges. Like the search for a single code
point this stops at the first range that begins beyond. -/
def meets (low high : Nat) : CodeRanges → Bool
  | [] => false
  | (first, last) :: later =>
      -- Plain Boolean tests, which the kernel evaluates fast over the long tables.
      bif high.blt first then false
      else bif last.blt low then meets low high later
      else true

theorem contains_outside {low high code : Nat} {ranges : CodeRanges}
    (clear : meets low high ranges = false) (above : low ≤ code) (below : code ≤ high) :
    ranges.contains code = false := by
  induction ranges with
  | nil => rfl
  | cons range later induction =>
      rcases range with ⟨first, last⟩
      simp only [meets, cond_eq_ite, Nat.blt_eq] at clear
      simp only [contains]
      split at clear
      · rw [if_pos (by omega)]
      · split at clear
        · rw [induction clear, if_neg (show ¬code ≤ last by omega)]
          exact ite_self false
        · contradiction

def apart (left right : CodeRanges) : Bool :=
  left.all fun range => !meets range.1 range.2 right

theorem contains_apart {left right : CodeRanges} (separate : apart left right = true)
    {code : Nat} (found : left.contains code = true) : right.contains code = false := by
  rcases exists_range_of_contains found with ⟨range, member, above, below⟩
  have clear := List.all_eq_true.mp separate range member
  rw [Bool.not_eq_true'] at clear
  exact contains_outside clear above below

end CodeRanges

def digitRanges : CodeRanges := zeroDigits.map fun first => (first, first + 9)

theorem digit_value_found (zeros : List Nat) (code : Nat) :
    (digitValueIn zeros code).isSome =
      CodeRanges.contains (zeros.map fun first => (first, first + 9)) code := by
  induction zeros with
  | nil => rfl
  | cons first later induction =>
      have lastDigit : code < first + 10 ↔ code ≤ first + 9 := by omega
      simp only [digitValueIn, List.map_cons, CodeRanges.contains, lastDigit]
      split
      · rfl
      · split
        · rfl
        · exact induction

theorem digit_in_ranges (character : Char) :
    isDecimalDigit character = digitRanges.contains character.toNat :=
  digit_value_found zeroDigits character.toNat

theorem blank_not_letter {character : Char} (blank : isBlank character = true) :
    isLetter character = false :=
  CodeRanges.contains_apart (by decide +kernel) blank

theorem blank_not_digit {character : Char} (blank : isBlank character = true) :
    isDecimalDigit character = false := by
  rw [digit_in_ranges]
  exact CodeRanges.contains_apart (by decide +kernel) blank

theorem digit_not_letter {character : Char} (digit : isDecimalDigit character = true) :
    isLetter character = false := by
  rw [digit_in_ranges] at digit
  exact CodeRanges.contains_apart (by decide +kernel) digit

theorem letter_not_blank {character : Char} (letter : isLetter character = true) :
    isBlank character = false := by
  by_contra blank
  rw [Bool.not_eq_false] at blank
  rw [blank_not_letter blank] at letter
  contradiction

theorem digit_not_blank {character : Char} (digit : isDecimalDigit character = true) :
    isBlank character = false := by
  by_contra blank
  rw [Bool.not_eq_false] at blank
  rw [blank_not_digit blank] at digit
  contradiction

end Text

open Text

theorem symbol_iff {character : Char} :
    isSymbol character = true ↔
      character = '+' ∨ character = '-' ∨ character = ';' ∨ character = '=' := by
  simp [isSymbol, symbolChars]

def symbolTexts : List CodeText := ["=", "+", "-", ";"]

theorem symbol_texts_alone :
    symbolTexts = ['=', '+', '-', ';'].map fun symbol => [.char symbol] := rfl

theorem symbol_text_iff {character : Char} :
    [.char character] ∈ symbolTexts ↔ isSymbol character = true := by
  rw [symbol_texts_alone, List.mem_map, symbol_iff]
  simp only [List.mem_cons, List.not_mem_nil, or_false, List.cons.injEq, CodePoint.char.injEq,
    and_true, exists_eq_right]
  tauto

theorem symbol_text_alone {text : CodeText} (listed : text ∈ symbolTexts) :
    ∃ character, text = [.char character] := by
  rw [symbol_texts_alone] at listed
  obtain ⟨character, _, same⟩ := List.mem_map.mp listed
  exact ⟨character, same.symm⟩

theorem symbol_in_no_table {character : Char} (symbol : isSymbol character = true) :
    isBlank character = false ∧ isLetter character = false ∧
      isDecimalDigit character = false ∧ character ≠ '"' := by
  rcases symbol_iff.mp symbol with rfl | rfl | rfl | rfl <;> decide

namespace CharClass

theorem of_blank_iff {character : Char} :
    CharClass.of character = .blank ↔ isBlank character = true := by
  unfold CharClass.of
  split_ifs <;> simp_all

theorem of_letter_iff {character : Char} :
    CharClass.of character = .letter ↔ isLetter character = true := by
  constructor
  · unfold CharClass.of
    split_ifs <;> simp_all
  · intro letter
    simp [CharClass.of, letter_not_blank letter, letter]

theorem of_digit_iff {character : Char} :
    CharClass.of character = .digit ↔ isDecimalDigit character = true := by
  constructor
  · unfold CharClass.of
    split_ifs <;> simp_all
  · intro digit
    simp [CharClass.of, digit_not_blank digit, digit_not_letter digit, digit]

theorem of_quote_iff {character : Char} : CharClass.of character = .quote ↔ character = '"' := by
  constructor
  · unfold CharClass.of
    split_ifs <;> simp_all
  · rintro rfl
    decide

theorem of_symbol_iff {character : Char} :
    CharClass.of character = .symbol ↔ isSymbol character = true := by
  constructor
  · unfold CharClass.of
    split_ifs <;> simp_all
  · intro symbol
    rcases symbol_in_no_table symbol with ⟨ink, noLetter, noDigit, noQuote⟩
    simp [CharClass.of, ink, noLetter, noDigit, noQuote, symbol]

theorem of_other_iff {character : Char} :
    CharClass.of character = .other ↔ isBlank character = false ∧ isLetter character = false ∧
      isDecimalDigit character = false ∧ character ≠ '"' ∧ isSymbol character = false := by
  unfold CharClass.of
  split_ifs <;> simp_all

end CharClass

end ExprLexer
