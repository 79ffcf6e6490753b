import ExprLexer.Proofs.Endings

/-!
Lines and columns. A lexer moves its line and column along with its place and never looks back;
whatever it tells a line and a column of, they are those that the whole source gives the place:
its own place between readings, both ends of a token, an error far ahead of it, and the quote of
a string that the end of the text cuts off.
-/

namespace ExprLexer

open Text

section Readings

variable {source : List Char} {file : Option String} {config : LexConfig} {front : Nat}
  {reading : Reading}

theorem failure_coordinates {error : LexError}
    (found : ReadingAt source file config front reading) (within : front ≤ source.length)
    (failed : reading.outcome = .failed error) :
    ∃ place, front ≤ place ∧ place ≤ source.length ∧ error.offset = some (place : Int) ∧
      error.line = some (lineAt source place : Int) ∧
      error.column = some (columnAt source place : Int) := by
  rcases failure_stays found failed with ⟨_, ⟨_, _, rfl⟩ | ⟨stop, first, feed, rfl⟩ | ⟨_, rfl⟩⟩
  · exact ⟨front, Nat.le_refl _, within, rfl, rfl, rfl⟩
  · rcases List.getElem?_eq_some_iff.mp feed with ⟨bound, _⟩
    exact ⟨stop, Nat.le_of_lt first.behind, Nat.le_of_lt bound, rfl, rfl, rfl⟩
  · exact ⟨source.length, within, Nat.le_refl _, rfl, rfl, rfl⟩

theorem warning_coordinates {line column : Nat}
    (found : ReadingAt source file config front reading)
    (warned : .abandonedString line column ∈ reading.events) :
    source[front]? = some '"' ∧ line = lineAt source front ∧ column = columnAt source front := by
  cases found with
  | openLenient quote _ _ =>
      simp only [List.mem_singleton, LogEvent.abandonedString.injEq] at warned
      exact ⟨quote, warned⟩
  | nothing _ | token _ _ | unrecognized _ _ | brokenString _ _ _ | openStrict _ _ _ =>
      simp at warned

end Readings

/-- Every line and column that a lexer keeps or tells, in every state that it can be in, is that
of a place in the source. -/
theorem coordinates_by_source (source : String) (file : Option String) (config : LexConfig)
    (count : Nat) :
    let text := source.toList
    let lexer := (Lexer.ofSource source file config).afterReads count
    (lexer.position.line = lineAt text lexer.position.offset ∧
      lexer.position.column = columnAt text lexer.position.offset) ∧
    (∀ token, lexer.next.outcome = .token token →
      ∃ start stop, FirstInk text lexer.position.offset start ∧
        stop = lexer.next.lexer.position.offset ∧
        token.location.offset = start ∧ token.location.endOffset = stop ∧
        token.location.line = lineAt text start ∧
        token.location.column = columnAt text start ∧ token.location.file = file) ∧
    (∀ error, lexer.next.outcome = .failed error →
      ∃ place, place ≤ text.length ∧ error.offset = some (place : Int) ∧
        error.line = some (lineAt text place : Int) ∧
        error.column = some (columnAt text place : Int)) ∧
    (∀ line column, .abandonedString line column ∈ lexer.next.events →
      ∃ quote, FirstInk text lexer.position.offset quote ∧ text[quote]? = some '"' ∧
        line = lineAt text quote ∧ column = columnAt text quote) := by
  intro text lexer
  rcases Lexer.reading_after_reads source file config count with
    ⟨place, front, ink, same, found⟩
  have position : lexer.position = ⟨place, lineAt text place, columnAt text place⟩ :=
    congrArg Lexer.position same
  rw [position]
  refine ⟨⟨rfl, rfl⟩, ?_, ?_, ?_⟩
  · intro token delivered
    rcases delivered_token found delivered with ⟨span, _, _, located, _, moved⟩
    refine ⟨front, front + span.length, ink, ?_, ?_⟩
    · exact (congrArg (·.position.offset) moved).symm
    · rw [located]
      exact ⟨rfl, rfl, rfl, rfl, rfl⟩
  · intro error failed
    rcases failure_coordinates found ink.within failed with ⟨stop, _, coordinates⟩
    exact ⟨stop, coordinates⟩
  · intro line column warned
    rcases warning_coordinates found warned with ⟨quote, coordinates⟩
    exact ⟨front, ink, quote, coordinates⟩

/-- A tab is one column, a carriage return begins no line, and a line feed does. -/
example : columnAt ['a', '\t', '\r', 'b', '\n', 'c'] 3 = 4 ∧
    lineAt ['a', '\t', '\r', 'b', '\n', 'c'] 5 = 2 ∧
    columnAt ['a', '\t', '\r', 'b', '\n', 'c'] 5 = 1 := by decide

end ExprLexer
