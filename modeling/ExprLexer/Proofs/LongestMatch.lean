import ExprLexer.Proofs.Readings

/-!
Longest match. A lexer delivers a token exactly where a lexeme of one of the four languages
begins at the first ink, and the token is the longest of these lexemes. That no lexeme is passed
over is shown from the text alone: whatever else a reading can be, it excludes every lexeme.
-/

namespace ExprLexer

open Text

theorem lexeme_stands {source span : List Char} {front : Nat} {kind : TokenKind}
    (lexeme : IsLexeme kind span) (begins : span <+: source.drop front) :
    ∃ character, source[front]? = some character ∧
      CharClass.of character = kind.firstClass := by
  rcases lexeme_first_class lexeme with ⟨first, more, rfl, classified⟩
  rcases begins with ⟨rest, whole⟩
  refine ⟨first, ?_, classified⟩
  have head : source[front]? = (source.drop front).head? := List.head?_drop.symm
  rw [head, ← whole]
  rfl

theorem string_lexeme_stop {source span : List Char} {front : Nat}
    (lexeme : IsLexeme .string span) (begins : span <+: source.drop front) :
    ∃ stop, FirstStop source front stop ∧ source[stop]? = some '"' := by
  cases lexeme with
  | @string body unbroken =>
      rcases begins with ⟨rest, whole⟩
      have split : source.drop front = '"' :: (body ++ '"' :: rest) := by
        rw [← whole]
        simp
      exact ⟨_, first_stop_of_split split unbroken (Or.inl rfl)⟩

theorem quote_lexeme_string {source span : List Char} {front : Nat} {kind : TokenKind}
    (quote : source[front]? = some '"') (lexeme : IsLexeme kind span)
    (begins : span <+: source.drop front) : kind = .string := by
  rcases lexeme_stands lexeme begins with ⟨character, here, classified⟩
  have same : character = '"' := Option.some.inj (here.symm.trans quote)
  apply first_class_injective
  rw [← classified, same]
  exact CharClass.of_quote_iff.mpr rfl

theorem no_lexeme_where_stopped {source span : List Char} {front : Nat} {kind : TokenKind}
    (quote : source[front]? = some '"')
    (unclosed : ∀ stop, FirstStop source front stop → source[stop]? ≠ some '"')
    (lexeme : IsLexeme kind span) : ¬span <+: source.drop front := by
  intro begins
  have string := quote_lexeme_string quote lexeme begins
  subst string
  rcases string_lexeme_stop lexeme begins with ⟨stop, first, close⟩
  exact unclosed stop first close

theorem reading_delivers {source : List Char} {file : Option String} {config : LexConfig}
    {front : Nat} {reading : Reading} {kind : TokenKind} {span : List Char}
    (found : ReadingAt source file config front reading) (lexeme : IsLexeme kind span)
    (begins : span <+: source.drop front) : ∃ token, reading.outcome = .token token := by
  rcases lexeme_stands lexeme begins with ⟨character, here, classified⟩
  cases found with
  | nothing ended =>
      rw [ended, List.getElem?_length] at here
      contradiction
  | token _ _ => exact ⟨_, rfl⟩
  | unrecognized standing unclassed =>
      have same := Option.some.inj (here.symm.trans standing)
      rw [same, unclassed] at classified
      cases kind <;> contradiction
  | brokenString quote first feed =>
      apply absurd begins
      apply no_lexeme_where_stopped quote _ lexeme
      intro stop other close
      rw [first_stop_unique other first, feed] at close
      contradiction
  | openStrict quote endless _ | openLenient quote endless _ =>
      apply absurd begins
      apply no_lexeme_where_stopped quote _ lexeme
      intro stop first
      exact absurd endless (first_stop_excludes first)

/-- The token of a reading, by the longest lexeme at the first ink. -/
theorem delivered_token {source : List Char} {file : Option String} {config : LexConfig}
    {front : Nat} {reading : Reading} {token : Token}
    (found : ReadingAt source file config front reading)
    (delivered : reading.outcome = .token token) :
    ∃ span, IsLongestLexeme (source.drop front) token.payload.kind span ∧
      token.payload.SpelledBy span ∧
      token.location = .ofPlaces source file front (front + span.length) ∧
      reading.events = [] ∧
      reading.lexer = .atPlace source file config (front + span.length) := by
  cases found with
  | @token payload span longest spelled =>
      cases delivered
      exact ⟨span, longest, spelled, rfl, rfl, rfl⟩
  | nothing _ | unrecognized _ _ | brokenString _ _ _ | openStrict _ _ _ | openLenient _ _ _ =>
      contradiction

/-- Longest match, in every state that a lexer over a source can be in. -/
theorem token_iff_longest_lexeme (source : String) (file : Option String) (config : LexConfig)
    (count : Nat) :
    let text := source.toList
    let lexer := (Lexer.ofSource source file config).afterReads count
    ∃ front, FirstInk text lexer.position.offset front ∧
      ((∃ token, lexer.next.outcome = .token token) ↔
        front < text.length ∧
          ∃ kind span, span ≠ [] ∧ span <+: text.drop front ∧ IsLexeme kind span) ∧
      ∀ token, lexer.next.outcome = .token token →
        ∃ span, IsLongestLexeme (text.drop front) token.payload.kind span ∧
          (∀ kind, IsLexeme kind span → kind = token.payload.kind) ∧
          token.payload.SpelledBy span ∧
          token.location.offset = front ∧
          token.location.endOffset = front + span.length ∧
          lexer.next.lexer.position.offset = front + span.length := by
  intro text lexer
  rcases Lexer.reading_after_reads source file config count with
    ⟨place, front, ink, same, found⟩
  have offset : lexer.position.offset = place := congrArg (·.position.offset) same
  refine ⟨front, by rw [offset]; exact ink, ⟨?_, ?_⟩, ?_⟩
  · rintro ⟨token, delivered⟩
    rcases delivered_token found delivered with ⟨span, longest, _⟩
    have positive := lexeme_length_positive longest.lexeme
    have bound := begins_within ink.within longest.begins
    have inside : front < source.toList.length := by omega
    exact ⟨inside, _, span, lexeme_nonempty longest.lexeme, longest.begins, longest.lexeme⟩
  · rintro ⟨_, kind, span, _, begins, lexeme⟩
    exact reading_delivers found lexeme begins
  · intro token delivered
    rcases delivered_token found delivered with ⟨span, longest, spelled, located, _, moved⟩
    refine ⟨span, longest, ?_, spelled, ?_, ?_, ?_⟩
    · intro kind lexeme
      exact lexeme_kind_unique lexeme longest.begins longest.lexeme longest.begins
    · rw [located]
      rfl
    · rw [located]
      exact Int.natCast_add front span.length
    · exact congrArg (·.position.offset) moved

end ExprLexer
