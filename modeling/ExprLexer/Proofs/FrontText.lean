import ExprLexer.Lexer.Front
import ExprLexer.Proofs.NumberText

/-!
What the front of a text says of the text. Each scanner takes the longest lexeme of its own
language, and a lexeme of another language cannot begin with the same character, so the span of
a front is the longest lexeme of all four. Where the front is no lexeme, its parts put together
give the text.
-/

namespace ExprLexer

open Text

theorem run_prefix_short {kept : Char → Bool} {run text : List Char}
    (inside : ∀ character ∈ run, kept character = true) (begins : run <+: text) :
    run.length ≤ (text.takeWhile kept).length := by
  rcases begins with ⟨rest, rfl⟩
  rw [List.takeWhile_append_of_pos inside, List.length_append]
  exact Nat.le_add_right _ _

theorem run_before_stop {kept : Char → Bool} {run : List Char} {stop : Char} (rest : List Char)
    (inside : ∀ character ∈ run, kept character = true) (halt : kept stop = false) :
    (run ++ stop :: rest).takeWhile kept = run ∧
      (run ++ stop :: rest).dropWhile kept = stop :: rest := by
  constructor
  · rw [List.takeWhile_append_of_pos inside]
    simp [halt]
  · rw [List.dropWhile_append_of_pos inside]
    simp [halt]

theorem lexeme_kind_of_class {first : Char} {rest candidate : List Char}
    {kind other : TokenKind} (classified : CharClass.of first = kind.firstClass)
    (lexeme : IsLexeme other candidate) (begins : candidate <+: first :: rest) :
    other = kind := by
  apply first_class_injective
  rw [← lexeme_prefix_class lexeme begins, classified]

namespace Front

inductive Describes : List Char → Front → Prop where
  | nothing : Describes [] .nothing
  | lexeme {text span : List Char} {payload : Payload}
      (longest : IsLongestLexeme text payload.kind span) (spelled : payload.SpelledBy span) :
      Describes text (.lexeme payload span)
  | unrecognized {first : Char} {rest : List Char}
      (classified : CharClass.of first = .blank ∨ CharClass.of first = .other) :
      Describes (first :: rest) (.unrecognized first)
  | brokenString {body rest : List Char}
      (unbroken : ∀ character ∈ body, character ≠ '"' ∧ character ≠ '\n') :
      Describes ('"' :: (body ++ '\n' :: rest)) (.brokenString body)
  | openString {body : List Char}
      (unbroken : ∀ character ∈ body, character ≠ '"' ∧ character ≠ '\n') :
      Describes ('"' :: body) (.openString body)

theorem of_name_describes {first : Char} (rest : List Char)
    (letter : isLetter first = true) : Describes (first :: rest) (ofName first rest) := by
  have lexeme : IsLexeme .name (first :: rest.takeWhile isNameChar) :=
    .name letter fun character member =>
      continues_name_iff.mp (List.mem_takeWhile_imp member)
  refine .lexeme ⟨lexeme, ?_, ?_⟩ ?_
  · exact List.cons_prefix_cons.mpr ⟨rfl, List.takeWhile_prefix _⟩
  · intro other candidate candidateLexeme begins
    have kind : other = .name :=
      lexeme_kind_of_class (CharClass.of_letter_iff.mpr letter) candidateLexeme begins
    subst kind
    cases candidateLexeme with
    | name _ continued =>
        have later := (List.cons_prefix_cons.mp begins).2
        have short := run_prefix_short
          (fun character member => continues_name_iff.mpr (continued character member)) later
        simpa only [List.length_cons, Nat.add_le_add_iff_right] using short
  · exact rfl

theorem is_string_char_iff {character : Char} :
    isStringChar character = true ↔ character ≠ '"' ∧ character ≠ '\n' := by
  simp [isStringChar]

theorem closed_string_describes {body rest : List Char}
    (unbroken : ∀ character ∈ body, character ≠ '"' ∧ character ≠ '\n') :
    Describes ('"' :: (body ++ '"' :: rest))
      (.lexeme (.string (.ofChars body)) ('"' :: (body ++ ['"']))) := by
  refine .lexeme ⟨.string unbroken, ?_, ?_⟩ ?_
  · exact ⟨rest, by simp⟩
  · intro other candidate candidateLexeme begins
    have kind : other = .string :=
      lexeme_kind_of_class (CharClass.of_quote_iff.mpr rfl) candidateLexeme begins
    subst kind
    cases candidateLexeme with
    | @string candidateBody candidateUnbroken =>
        -- Both bodies are the run of string characters before the same first stop.
        have halt : isStringChar '"' = false := by decide
        rcases (List.cons_prefix_cons.mp begins).2 with ⟨tail, same⟩
        rw [List.append_assoc, List.singleton_append] at same
        have run := (run_before_stop rest
          (fun character member => is_string_char_iff.mpr (unbroken character member)) halt).1
        have candidateRun := (run_before_stop tail
          (fun character member => is_string_char_iff.mpr (candidateUnbroken character member))
          halt).1
        rw [same, run] at candidateRun
        rw [candidateRun]
  · exact ⟨body, rfl, rfl⟩

theorem of_quote_describes (rest : List Char) : Describes ('"' :: rest) (ofQuote rest) := by
  have split : rest.takeWhile isStringChar ++ rest.dropWhile isStringChar = rest :=
    List.takeWhile_append_dropWhile
  have unbroken : ∀ character ∈ rest.takeWhile isStringChar,
      character ≠ '"' ∧ character ≠ '\n' :=
    fun _ member => is_string_char_iff.mp (List.mem_takeWhile_imp member)
  have halt := List.head?_dropWhile_not isStringChar rest
  unfold ofQuote
  generalize rest.takeWhile isStringChar = body at split unbroken ⊢
  generalize rest.dropWhile isStringChar = remaining at split halt ⊢
  subst split
  cases remaining with
  | nil =>
      rw [List.append_nil]
      exact .openString unbroken
  | cons stop later =>
      by_cases quote : stop = '"'
      · subst quote
        exact closed_string_describes unbroken
      · have newline : stop = '\n' := by
          by_contra other
          have inside := is_string_char_iff.mpr ⟨quote, other⟩
          simp [inside] at halt
        subst newline
        exact .brokenString unbroken

theorem digits_describe {text : List Char} (present : text.takeWhile isDecimalDigit ≠ [])
    (unpointed : ∀ rest, text.dropWhile isDecimalDigit ≠ '.' :: rest) :
    Describes text (.lexeme (.number (Numeral.toBinary64
      ⟨false, text.takeWhile isDecimalDigit, [], 0⟩)) (text.takeWhile isDecimalDigit)) := by
  have decimal : ∀ character ∈ text.takeWhile isDecimalDigit, isDecimalDigit character = true :=
    fun _ member => List.mem_takeWhile_imp member
  refine .lexeme ⟨.integer present decimal, List.takeWhile_prefix _, ?_⟩
    (Numeral.read_integer_lexeme present decimal)
  intro other candidate lexeme begins
  have kind : other = .number :=
    lexeme_kind_unique lexeme begins (.integer present decimal) (List.takeWhile_prefix _)
  subst kind
  cases lexeme with
  | integer _ candidateDecimal => exact run_prefix_short candidateDecimal begins
  | @pointed whole fraction _ wholeDecimal _ =>
      rcases begins with ⟨tail, rfl⟩
      have stop := (run_before_stop (fraction ++ tail) wholeDecimal
        (show isDecimalDigit '.' = false by decide)).2
      exact absurd (by simpa using stop) (unpointed (fraction ++ tail))

theorem pointed_digits_describe {text rest : List Char}
    (present : text.takeWhile isDecimalDigit ≠ [])
    (pointed : text.dropWhile isDecimalDigit = '.' :: rest) :
    Describes text (.lexeme (.number (Numeral.toBinary64
      ⟨false, text.takeWhile isDecimalDigit, rest.takeWhile isDecimalDigit, 0⟩))
      (text.takeWhile isDecimalDigit ++ '.' :: rest.takeWhile isDecimalDigit)) := by
  have wholeDecimal : ∀ character ∈ text.takeWhile isDecimalDigit,
      isDecimalDigit character = true := fun _ member => List.mem_takeWhile_imp member
  have fractionDecimal : ∀ character ∈ rest.takeWhile isDecimalDigit,
      isDecimalDigit character = true := fun _ member => List.mem_takeWhile_imp member
  have begins : text.takeWhile isDecimalDigit ++ '.' :: rest.takeWhile isDecimalDigit <+: text := by
    have split : text.takeWhile isDecimalDigit ++ text.dropWhile isDecimalDigit = text :=
      List.takeWhile_append_dropWhile
    conv => arg 2; rw [← split, pointed]
    rw [List.prefix_append_right_inj, List.cons_prefix_cons]
    exact ⟨rfl, List.takeWhile_prefix _⟩
  refine .lexeme ⟨.pointed present wholeDecimal fractionDecimal, begins, ?_⟩
    (Numeral.read_pointed_lexeme present wholeDecimal fractionDecimal)
  intro other candidate lexeme candidateBegins
  have kind : other = .number := lexeme_kind_unique lexeme candidateBegins
    (.pointed present wholeDecimal fractionDecimal) begins
  subst kind
  cases lexeme with
  | integer _ candidateDecimal =>
      have short := run_prefix_short candidateDecimal candidateBegins
      rw [List.length_append]
      exact le_trans short (Nat.le_add_right _ _)
  | @pointed whole fraction _ candidateWhole candidateFraction =>
      -- The run of digits before the point is forced, so only the fractions compare.
      rcases candidateBegins with ⟨tail, rfl⟩
      have parts := run_before_stop (fraction ++ tail) candidateWhole
        (show isDecimalDigit '.' = false by decide)
      have sameText : whole ++ '.' :: fraction ++ tail = whole ++ '.' :: (fraction ++ tail) := by
        simp
      rw [sameText] at pointed ⊢
      rw [parts.2] at pointed
      have remaining : fraction ++ tail = rest := (List.cons.inj pointed).2
      have short : fraction.length ≤ (rest.takeWhile isDecimalDigit).length :=
        run_prefix_short candidateFraction ⟨tail, remaining⟩
      rw [parts.1]
      simp only [List.length_append, List.length_cons]
      omega

theorem of_digits_describes {first : Char} (rest : List Char)
    (digit : isDecimalDigit first = true) :
    Describes (first :: rest) (ofDigits (first :: rest)) := by
  have present : (first :: rest).takeWhile isDecimalDigit ≠ [] := by simp [digit]
  unfold ofDigits
  split
  · rename_i later pointed
    exact pointed_digits_describe present pointed
  · rename_i unpointed
    exact digits_describe present unpointed

theorem symbol_describes {first : Char} (rest : List Char) (symbol : isSymbol first = true) :
    Describes (first :: rest) (.lexeme (.symbol [.char first]) [first]) := by
  refine .lexeme ⟨.symbol (listed_iff_symbol.mpr symbol), ⟨rest, rfl⟩, ?_⟩ ?_
  · intro other candidate lexeme begins
    have kind : other = .symbol :=
      lexeme_kind_of_class (CharClass.of_symbol_iff.mpr symbol) lexeme begins
    subst kind
    cases lexeme with
    | symbol _ => exact Nat.le_refl 1
  · exact rfl

theorem front_describes (text : List Char) : Describes text (Front.of text) := by
  cases text with
  | nil => exact .nothing
  | cons first rest =>
      simp only [Front.of]
      cases classified : CharClass.of first with
      | letter => exact of_name_describes rest (CharClass.of_letter_iff.mp classified)
      | digit => exact of_digits_describes rest (CharClass.of_digit_iff.mp classified)
      | quote =>
          rw [CharClass.of_quote_iff.mp classified]
          exact of_quote_describes rest
      | symbol => exact symbol_describes rest (CharClass.of_symbol_iff.mp classified)
      | blank => exact .unrecognized (Or.inl classified)
      | other => exact .unrecognized (Or.inr classified)

end Front

end ExprLexer
