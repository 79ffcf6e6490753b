import ExprLexer.Proofs.LongestMatch

/-!
The readings that deliver no token. What stands at the first ink decides between them: the end of
the text, a character that begins no lexeme, or a quote whose first stop is missing or is a line
feed. Only the last of these cases asks for the mode of the lexer, and only where the stop is
missing.
-/

namespace ExprLexer

open Text

section Readings

variable {source : List Char} {file : Option String} {config : LexConfig} {front : Nat}
  {reading : Reading}

theorem reading_at_end (found : ReadingAt source file config front reading)
    (ended : front = source.length) :
    reading = ⟨.finished, [], .atPlace source file config front⟩ := by
  have nobody : source[front]? = none := by rw [ended, List.getElem?_length]
  cases found with
  | nothing _ => rfl
  | token longest _ =>
      rcases lexeme_stands longest.lexeme longest.begins with ⟨_, here, _⟩
      rw [nobody] at here
      contradiction
  | unrecognized here _ | brokenString here _ _ | openStrict here _ _ | openLenient here _ _ =>
      rw [nobody] at here
      contradiction

theorem reading_at_other {character : Char}
    (found : ReadingAt source file config front reading)
    (here : source[front]? = some character) (unclassed : CharClass.of character = .other) :
    reading = ⟨.failed (.ofPlace source file
        (.unrecognizedCharacter (String.singleton character)) front),
      [.unrecognizedCharacter character front], .atPlace source file config front⟩ := by
  have noQuote : source[front]? ≠ some '"' := by
    intro quote
    have same : character = '"' := Option.some.inj (here.symm.trans quote)
    rw [CharClass.of_quote_iff.mpr same] at unclassed
    contradiction
  cases found with
  | nothing ended =>
      rw [ended, List.getElem?_length] at here
      contradiction
  | @token payload _ longest _ =>
      rcases lexeme_stands longest.lexeme longest.begins with ⟨standing, there, classified⟩
      have same : standing = character := Option.some.inj (there.symm.trans here)
      rw [same, unclassed] at classified
      cases payload <;> contradiction
  | unrecognized there _ =>
      have same := Option.some.inj (there.symm.trans here)
      rw [same]
  | brokenString quote _ _ | openStrict quote _ _ | openLenient quote _ _ =>
      exact absurd quote noQuote

/-- At a quote the first stop decides: a quote closes the string and gives a token, a line feed
breaks it, and without a stop the mode decides. -/
theorem reading_at_quote (found : ReadingAt source file config front reading)
    (quote : source[front]? = some '"') :
    (∃ stop token, FirstStop source front stop ∧ source[stop]? = some '"' ∧
        reading.outcome = .token token) ∨
      (∃ stop, FirstStop source front stop ∧ source[stop]? = some '\n' ∧
        reading = ⟨.failed (.ofPlace source file .unterminatedString stop),
          [.unterminatedString stop], .atPlace source file config front⟩) ∨
      (NoStop source front ∧ config.strictStrings = true ∧
        reading = ⟨.failed (.ofPlace source file .unterminatedString source.length),
          [.unterminatedString source.length], .atPlace source file config front⟩) ∨
      (NoStop source front ∧ config.strictStrings = false ∧
        reading = ⟨.finished,
          [.abandonedString (lineAt source front) (columnAt source front)],
          .atPlace source file config source.length⟩) := by
  cases found with
  | nothing ended =>
      rw [ended, List.getElem?_length] at quote
      contradiction
  | @token payload span longest _ =>
      have string := quote_lexeme_string quote longest.lexeme longest.begins
      have lexeme := longest.lexeme
      rw [string] at lexeme
      rcases string_lexeme_stop lexeme longest.begins with ⟨stop, first, close⟩
      exact Or.inl ⟨stop, _, first, close, rfl⟩
  | unrecognized here unclassed =>
      have same := Option.some.inj (here.symm.trans quote)
      rw [CharClass.of_quote_iff.mpr same] at unclassed
      contradiction
  | @brokenString stop _ first feed => exact Or.inr (Or.inl ⟨stop, first, feed, rfl⟩)
  | openStrict _ endless strict => exact Or.inr (Or.inr (Or.inl ⟨endless, strict, rfl⟩))
  | openLenient _ endless lenient => exact Or.inr (Or.inr (Or.inr ⟨endless, lenient, rfl⟩))

theorem reading_at_break {stop : Nat} (found : ReadingAt source file config front reading)
    (quote : source[front]? = some '"') (first : FirstStop source front stop)
    (feed : source[stop]? = some '\n') :
    reading = ⟨.failed (.ofPlace source file .unterminatedString stop),
      [.unterminatedString stop], .atPlace source file config front⟩ := by
  rcases reading_at_quote found quote with
    ⟨close, _, other, closing, _⟩ | ⟨_, other, _, same⟩ | ⟨endless, _⟩ | ⟨endless, _⟩
  · rw [first_stop_unique other first, feed] at closing
    contradiction
  · rw [same, first_stop_unique other first]
  · exact absurd endless (first_stop_excludes first)
  · exact absurd endless (first_stop_excludes first)

theorem reading_at_open_string (found : ReadingAt source file config front reading)
    (quote : source[front]? = some '"') (endless : NoStop source front) :
    reading =
      if config.strictStrings then
        ⟨.failed (.ofPlace source file .unterminatedString source.length),
          [.unterminatedString source.length], .atPlace source file config front⟩
      else
        ⟨.finished, [.abandonedString (lineAt source front) (columnAt source front)],
          .atPlace source file config source.length⟩ := by
  rcases reading_at_quote found quote with
    ⟨_, _, stopped, _, _⟩ | ⟨_, stopped, _, _⟩ | ⟨_, strict, same⟩ | ⟨_, lenient, same⟩
  · exact absurd endless (first_stop_excludes stopped)
  · exact absurd endless (first_stop_excludes stopped)
  · rw [same, strict, if_pos rfl]
  · rw [same, lenient, if_neg Bool.false_ne_true]

theorem unrecognized_iff (found : ReadingAt source file config front reading)
    (ink : ∀ character, source[front]? = some character → isBlank character = false) :
    (∃ error shown, reading.outcome = .failed error ∧
        error.fault = .unrecognizedCharacter shown) ↔
      ∃ character, source[front]? = some character ∧ isLetter character = false ∧
        isDecimalDigit character = false ∧ character ≠ '"' ∧ isSymbol character = false := by
  constructor
  · rintro ⟨error, shown, failed, fault⟩
    cases found with
    | @unrecognized character here unclassed =>
        exact ⟨character, here, (CharClass.of_other_iff.mp unclassed).2⟩
    | brokenString _ _ _ | openStrict _ _ _ =>
        cases failed
        contradiction
    | nothing _ | token _ _ | openLenient _ _ _ => contradiction
  · rintro ⟨character, here, unclassed⟩
    have other := CharClass.of_other_iff.mpr ⟨ink character here, unclassed⟩
    rw [reading_at_other found here other]
    exact ⟨_, _, rfl, rfl⟩

theorem unterminated_iff (found : ReadingAt source file config front reading) :
    (∃ error, reading.outcome = .failed error ∧ error.fault = .unterminatedString) ↔
      source[front]? = some '"' ∧
        ((∃ stop, FirstStop source front stop ∧ source[stop]? = some '\n') ∨
          (NoStop source front ∧ config.strictStrings = true)) := by
  constructor
  · rintro ⟨error, failed, fault⟩
    cases found with
    | @brokenString stop quote first feed => exact ⟨quote, Or.inl ⟨stop, first, feed⟩⟩
    | openStrict quote endless strict => exact ⟨quote, Or.inr ⟨endless, strict⟩⟩
    | unrecognized _ _ =>
        cases failed
        contradiction
    | nothing _ | token _ _ | openLenient _ _ _ => contradiction
  · rintro ⟨quote, ⟨stop, first, feed⟩ | ⟨endless, strict⟩⟩
    · rw [reading_at_break found quote first feed]
      exact ⟨_, rfl, rfl⟩
    · rcases reading_at_quote found quote with
        ⟨_, _, other, _⟩ | ⟨_, other, _⟩ | ⟨_, _, same⟩ | ⟨_, lenient, _⟩
      · exact absurd endless (first_stop_excludes other)
      · exact absurd endless (first_stop_excludes other)
      · rw [same]
        exact ⟨_, rfl, rfl⟩
      · rw [strict] at lenient
        contradiction

theorem finished_iff (found : ReadingAt source file config front reading) :
    reading.outcome = .finished ↔
      front = source.length ∨
        (source[front]? = some '"' ∧ NoStop source front ∧ config.strictStrings = false) := by
  constructor
  · intro finished
    cases found with
    | nothing ended => exact Or.inl ended
    | openLenient quote endless lenient => exact Or.inr ⟨quote, endless, lenient⟩
    | token _ _ | unrecognized _ _ | brokenString _ _ _ | openStrict _ _ _ => contradiction
  · rintro (ended | ⟨quote, endless, lenient⟩)
    · rw [reading_at_end found ended]
    · rcases reading_at_quote found quote with
        ⟨_, _, other, _⟩ | ⟨_, other, _⟩ | ⟨_, strict, _⟩ | ⟨_, _, same⟩
      · exact absurd endless (first_stop_excludes other)
      · exact absurd endless (first_stop_excludes other)
      · rw [lenient] at strict
        contradiction
      · rw [same]

theorem finished_leaves_end (found : ReadingAt source file config front reading)
    (finished : reading.outcome = .finished) :
    reading.lexer = .atPlace source file config source.length := by
  cases found with
  | nothing ended => rw [ended]
  | openLenient _ _ _ => rfl
  | token _ _ | unrecognized _ _ | brokenString _ _ _ | openStrict _ _ _ => contradiction

/-- An error leaves a lexer in front of what it could not read, and tells its own cause and
place. -/
theorem failure_stays {error : LexError} (found : ReadingAt source file config front reading)
    (failed : reading.outcome = .failed error) :
    reading.lexer = .atPlace source file config front ∧
      ((∃ character, source[front]? = some character ∧
          error = .ofPlace source file
            (.unrecognizedCharacter (String.singleton character)) front) ∨
        (∃ stop, FirstStop source front stop ∧ source[stop]? = some '\n' ∧
          error = .ofPlace source file .unterminatedString stop) ∨
        (NoStop source front ∧
          error = .ofPlace source file .unterminatedString source.length)) := by
  cases found with
  | @unrecognized character here _ =>
      cases failed
      exact ⟨rfl, Or.inl ⟨character, here, rfl⟩⟩
  | @brokenString stop _ first feed =>
      cases failed
      exact ⟨rfl, Or.inr (Or.inl ⟨stop, first, feed, rfl⟩)⟩
  | openStrict _ endless _ =>
      cases failed
      exact ⟨rfl, Or.inr (Or.inr ⟨endless, rfl⟩)⟩
  | nothing _ | token _ _ | openLenient _ _ _ => contradiction

end Readings

/-- The readings without a token, each by a condition on the source that is necessary and
sufficient, in every state that a lexer over the source can be in. -/
theorem endings_by_source (source : String) (file : Option String) (config : LexConfig)
    (count : Nat) :
    let text := source.toList
    let lexer := (Lexer.ofSource source file config).afterReads count
    ∃ front, FirstInk text lexer.position.offset front ∧
      ((∃ error shown, lexer.next.outcome = .failed error ∧
          error.fault = .unrecognizedCharacter shown) ↔
        ∃ character, text[front]? = some character ∧ isLetter character = false ∧
          isDecimalDigit character = false ∧ character ≠ '"' ∧ isSymbol character = false) ∧
      (∀ error shown, lexer.next.outcome = .failed error →
        error.fault = .unrecognizedCharacter shown →
          ∃ character, text[front]? = some character ∧ shown = String.singleton character ∧
            error.offset = some (front : Int)) ∧
      ((∃ error, lexer.next.outcome = .failed error ∧ error.fault = .unterminatedString) ↔
        text[front]? = some '"' ∧
          ((∃ stop, FirstStop text front stop ∧ text[stop]? = some '\n') ∨
            (NoStop text front ∧ config.strictStrings = true))) ∧
      (∀ error, lexer.next.outcome = .failed error → error.fault = .unterminatedString →
        (∃ stop, FirstStop text front stop ∧ text[stop]? = some '\n' ∧
          error.offset = some (stop : Int)) ∨
        (NoStop text front ∧ error.offset = some (text.length : Int))) ∧
      (lexer.next.outcome = .finished ↔
        front = text.length ∨
          (text[front]? = some '"' ∧ NoStop text front ∧ config.strictStrings = false)) ∧
      (lexer.next.outcome = .finished → lexer.next.lexer.position.offset = text.length) ∧
      (∀ error, lexer.next.outcome = .failed error →
        (error.fault = .unterminatedString ∨
          ∃ shown, error.fault = .unrecognizedCharacter shown) ∧
        lexer.next.lexer.position.offset = front) := by
  intro text lexer
  rcases Lexer.reading_after_reads source file config count with
    ⟨place, front, ink, same, found⟩
  have offset : lexer.position.offset = place := congrArg (·.position.offset) same
  refine ⟨front, by rw [offset]; exact ink, unrecognized_iff found ink.ink, ?_,
    unterminated_iff found, ?_, finished_iff found, ?_, ?_⟩
  · intro error shown failed fault
    rcases failure_stays found failed with ⟨_, ⟨character, here, rfl⟩ | ⟨_, _, _, rfl⟩ | ⟨_, rfl⟩⟩
    · cases fault
      exact ⟨character, here, rfl, rfl⟩
    · contradiction
    · contradiction
  · intro error failed fault
    rcases failure_stays found failed with
      ⟨_, ⟨_, _, rfl⟩ | ⟨stop, first, feed, rfl⟩ | ⟨endless, rfl⟩⟩
    · contradiction
    · exact Or.inl ⟨stop, first, feed, rfl⟩
    · exact Or.inr ⟨endless, rfl⟩
  · intro finished
    exact congrArg (·.position.offset) (finished_leaves_end found finished)
  · intro error failed
    rcases failure_stays found failed with ⟨stays, cause⟩
    refine ⟨?_, congrArg (·.position.offset) stays⟩
    rcases cause with ⟨_, _, rfl⟩ | ⟨_, _, _, rfl⟩ | ⟨_, rfl⟩
    · exact Or.inr ⟨_, rfl⟩
    · exact Or.inl rfl
    · exact Or.inl rfl

end ExprLexer
