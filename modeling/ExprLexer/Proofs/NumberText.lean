import ExprLexer.Proofs.Lexemes

/-!
Free number text contains the number lexemes: no digit of any script is a blank, a sign, an
underscore, an exponent mark or the beginning of a word, so each stage of the free reader passes
a number lexeme on unchanged. Its value is that of the numeral with the same digits on both
sides of the point.
-/

namespace ExprLexer.Numeral

open Text

def InNumber (character : Char) : Prop := isDecimalDigit character = true ∨ character = '.'

theorem in_number_not_margin {character : Char} (inside : InNumber character) :
    isMargin character = false := by
  rcases inside with digit | rfl
  · simp [isMargin, digit_not_blank digit]
  · decide

theorem in_number_not_underscore {character : Char} (inside : InNumber character) :
    character ≠ '_' := by
  rintro rfl
  rcases inside with digit | point
  · exact absurd digit (by decide)
  · exact absurd point (by decide)

theorem trim_margins_number {text : List Char} (inside : ∀ character ∈ text, InNumber character) :
    trimMargins text = text := by
  have front : text.dropWhile isMargin = text := by
    rw [List.dropWhile_eq_self_iff]
    intro present
    rw [in_number_not_margin (inside _ (List.getElem_mem present))]
    exact Bool.false_ne_true
  rw [trimMargins, front]
  rcases List.eq_nil_or_concat text with rfl | ⟨before, last, rfl⟩
  · rfl
  · rw [List.concat_eq_append] at inside ⊢
    exact trim_end_append_singleton before (in_number_not_margin (inside last (by simp)))

/-- Digits of other scripts are beyond the letters with two cases, and ASCII digits before. -/
theorem digit_lower_case {character : Char} (digit : isDecimalDigit character = true) :
    character.toLower = character := by
  have noLetter := digit_not_letter digit
  unfold Char.toLower
  rw [dif_neg]
  rintro ⟨above, below⟩
  have low : 0x41 ≤ character.toNat := above
  have high : character.toNat ≤ 0x5a := below
  have found : isLetter character = true := by
    unfold isLetter letterRanges
    rw [CodeRanges.contains, if_neg (by omega), if_pos high]
  rw [found] at noLetter
  contradiction

theorem digit_text_no_word {first : Char} (digit : isDecimalDigit first = true)
    (more : List Char) {letter : Char} {letters : String} {later : List Char}
    (spelled : letters.toList = letter :: later) (noDigit : isDecimalDigit letter = false) :
    String.ofList ((first :: more).map Char.toLower) ≠ letters := by
  intro same
  have characters : (first :: more).map Char.toLower = letter :: later := by
    rw [← spelled, ← same, String.toList_ofList]
  rw [List.map_cons, digit_lower_case digit] at characters
  have head : first = letter := (List.cons.inj characters).1
  rw [head, noDigit] at digit
  contradiction

theorem remove_underscores_none {text : List Char} (absent : ∀ character ∈ text, character ≠ '_')
    (afterDigit : Bool) : removeUnderscores? afterDigit text = some text := by
  induction text generalizing afterDigit with
  | nil => rfl
  | cons character rest induction =>
      have here := absent character (by simp)
      have later := induction (by intro other member; exact absent other (by simp [member]))
      simp only [removeUnderscores?, if_neg here, later, Option.map_some]

theorem split_sign_digit {first : Char} (digit : isDecimalDigit first = true)
    (more : List Char) : splitSign (first :: more) = (false, first :: more) := by
  have noMinus : first ≠ '-' := by
    rintro rfl
    exact absurd digit (by decide)
  have noPlus : first ≠ '+' := by
    rintro rfl
    exact absurd digit (by decide)
  simp [splitSign, noMinus, noPlus]

/-- A text of digits and points that begins with a digit is read by its digits alone. -/
theorem read_text_of_digits {first : Char} {more : List Char} {numeral : Numeral}
    (digit : isDecimalDigit first = true)
    (inside : ∀ character ∈ first :: more, InNumber character)
    (parts : ofDigits? false (first :: more) = some numeral) :
    readText? (first :: more) = some numeral.toBinary64 := by
  have bare : removeUnderscores? false (first :: more) = some (first :: more) :=
    remove_underscores_none
      (fun character member => in_number_not_underscore (inside character member)) false
  have noShortInfinity := digit_text_no_word digit more
    (show "inf".toList = ['i', 'n', 'f'] by rfl) (by decide)
  have noInfinity := digit_text_no_word digit more
    (show "infinity".toList = ['i', 'n', 'f', 'i', 'n', 'i', 't', 'y'] by rfl) (by decide)
  have noNan := digit_text_no_word digit more
    (show "nan".toList = ['n', 'a', 'n'] by rfl) (by decide)
  rw [readText?, trim_margins_number inside, split_sign_digit digit]
  simp only [unsigned?, noShortInfinity, noInfinity, noNan, or_self, if_false, bare,
    Option.bind_some, parts, Option.map_some]

theorem digits_in_number {digits : List Char}
    (decimal : ∀ character ∈ digits, isDecimalDigit character = true) :
    ∀ character ∈ digits, InNumber character :=
  fun character member => Or.inl (decimal character member)

theorem pointed_in_number {whole fraction : List Char}
    (wholeDecimal : ∀ character ∈ whole, isDecimalDigit character = true)
    (fractionDecimal : ∀ character ∈ fraction, isDecimalDigit character = true) :
    ∀ character ∈ whole ++ '.' :: fraction, InNumber character := by
  intro character member
  rw [List.mem_append, List.mem_cons] at member
  rcases member with member | point | member
  · exact Or.inl (wholeDecimal character member)
  · exact Or.inr point
  · exact Or.inl (fractionDecimal character member)

theorem of_digits_integer {digits : List Char} (present : digits ≠ [])
    (decimal : ∀ character ∈ digits, isDecimalDigit character = true) :
    ofDigits? false digits = some ⟨false, digits, [], 0⟩ := by
  have run : digits.takeWhile isDecimalDigit = digits := List.takeWhile_eq_self_iff.mpr decimal
  have stop : digits.dropWhile isDecimalDigit = [] := List.dropWhile_eq_nil_iff.mpr decimal
  simp [ofDigits?, run, stop, splitFraction, present, exponentOf?]

theorem of_digits_pointed {whole fraction : List Char} (present : whole ≠ [])
    (wholeDecimal : ∀ character ∈ whole, isDecimalDigit character = true)
    (fractionDecimal : ∀ character ∈ fraction, isDecimalDigit character = true) :
    ofDigits? false (whole ++ '.' :: fraction) = some ⟨false, whole, fraction, 0⟩ := by
  have pointNoDigit : isDecimalDigit '.' = false := by decide
  have run : (whole ++ '.' :: fraction).takeWhile isDecimalDigit = whole := by
    rw [List.takeWhile_append_of_pos wholeDecimal]
    simp [pointNoDigit]
  have stop : (whole ++ '.' :: fraction).dropWhile isDecimalDigit = '.' :: fraction := by
    rw [List.dropWhile_append_of_pos wholeDecimal]
    simp [pointNoDigit]
  have fractionRun : fraction.takeWhile isDecimalDigit = fraction :=
    List.takeWhile_eq_self_iff.mpr fractionDecimal
  have fractionStop : fraction.dropWhile isDecimalDigit = [] :=
    List.dropWhile_eq_nil_iff.mpr fractionDecimal
  simp [ofDigits?, run, stop, splitFraction, present, fractionRun, fractionStop, exponentOf?]

theorem read_integer_lexeme {digits : List Char} (present : digits ≠ [])
    (decimal : ∀ character ∈ digits, isDecimalDigit character = true) :
    readText? digits = some (toBinary64 ⟨false, digits, [], 0⟩) := by
  have parts := of_digits_integer present decimal
  have inside := digits_in_number decimal
  obtain ⟨first, more, rfl⟩ := List.exists_cons_of_ne_nil present
  exact read_text_of_digits (decimal first (by simp)) inside parts

theorem read_pointed_lexeme {whole fraction : List Char} (present : whole ≠ [])
    (wholeDecimal : ∀ character ∈ whole, isDecimalDigit character = true)
    (fractionDecimal : ∀ character ∈ fraction, isDecimalDigit character = true) :
    readText? (whole ++ '.' :: fraction) = some (toBinary64 ⟨false, whole, fraction, 0⟩) := by
  have parts := of_digits_pointed present wholeDecimal fractionDecimal
  have inside := pointed_in_number wholeDecimal fractionDecimal
  obtain ⟨first, more, rfl⟩ := List.exists_cons_of_ne_nil present
  exact read_text_of_digits (wholeDecimal first (by simp)) inside parts

end ExprLexer.Numeral
