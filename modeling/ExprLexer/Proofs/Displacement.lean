import ExprLexer.Proofs.Repetition

/-!
The same text further on. What a lexer does depends on the text that is left and not on the text
before it, which only displaces the places it tells: offsets by the length of that text, lines by
its line feeds, and columns, on the first line alone, by what stands behind its last line feed.
-/

namespace ExprLexer

open Text

namespace Text

/-- What stands behind the last line feed of a text, or all of it where there is none. -/
def lastLine (text : List Char) : List Char :=
  match lastLineFeed? text with
  | some index => text.drop (index + 1)
  | none => text

theorem last_line_feed_lt {text : List Char} {index : Nat}
    (found : lastLineFeed? text = some index) : index < text.length := by
  induction text generalizing index with
  | nil => contradiction
  | cons character rest induction =>
      rw [lastLineFeed?] at found
      rw [List.length_cons]
      cases later : lastLineFeed? rest with
      | some other =>
          rw [later] at found
          cases found
          exact Nat.succ_lt_succ (induction later)
      | none =>
          rw [later] at found
          simp only at found
          split at found
          · cases found
            exact Nat.zero_lt_succ rest.length
          · contradiction

theorem column_by_last_line {text : List Char} {place : Nat} (within : place ≤ text.length) :
    columnAt text place = 1 + (lastLine (text.take place)).length := by
  have length : (text.take place).length = place := List.length_take_of_le within
  rw [columnAt, lastLine]
  cases found : lastLineFeed? (text.take place) with
  | none =>
      simp only [length]
      exact Nat.add_comm place 1
  | some index =>
      have inside := last_line_feed_lt found
      simp only [List.length_drop]
      omega

/-- A place of a text, told of the text that another one stands in front of. -/
def Position.behind (text : List Char) (position : Position) : Position where
  offset := position.offset + text.length
  line := position.line + text.count '\n'
  column :=
    if position.line = 1 then position.column + (lastLine text).length else position.column

variable {text : List Char} {position : Position}

theorem advance_behind (firstLine : 1 ≤ position.line) (character : Char) :
    (position.behind text).advance character = (position.advance character).behind text := by
  by_cases feed : character = '\n'
  · have later : position.line + 1 ≠ 1 := by omega
    simp only [Position.advance, Position.behind, if_pos feed, if_neg later]
    simp only [Nat.add_right_comm]
  · simp only [Position.advance, Position.behind, if_neg feed]
    split <;> simp only [Nat.add_right_comm]

theorem line_le_after (position : Position) (stretch : List Char) :
    position.line ≤ (position.after stretch).line := by
  rw [Position.line_after]
  exact Nat.le_add_right _ _

theorem after_behind (firstLine : 1 ≤ position.line) (stretch : List Char) :
    (position.behind text).after stretch = (position.after stretch).behind text := by
  induction stretch generalizing position with
  | nil => rfl
  | cons character rest induction =>
      have next : 1 ≤ (position.advance character).line :=
        Nat.le_trans firstLine (line_le_after position [character])
      rw [Position.after_cons, advance_behind firstLine, induction next, Position.after_cons]

end Text

section Told

variable (text : List Char)

def Location.behind (location : Location) : Location where
  line := location.line + text.count '\n'
  column :=
    if location.line = 1 then location.column + (lastLine text).length else location.column
  offset := location.offset + text.length
  endOffset := location.endOffset + text.length
  file := location.file

def Token.behind (token : Token) : Token := ⟨token.payload, token.location.behind text⟩

def LexError.behind (error : LexError) : LexError where
  fault := error.fault
  line := error.line.map (· + (text.count '\n' : Int))
  column :=
    if error.line = some 1 then error.column.map (· + ((lastLine text).length : Int))
    else error.column
  offset := error.offset.map (· + (text.length : Int))
  file := error.file

def LogEvent.behind : LogEvent → LogEvent
  | unrecognizedCharacter character offset =>
      unrecognizedCharacter character (offset + text.length)
  | unterminatedString offset => unterminatedString (offset + text.length)
  | abandonedString line column =>
      abandonedString (line + text.count '\n')
        (if line = 1 then column + (lastLine text).length else column)

def Outcome.behind : Outcome → Outcome
  | token delivered => token (delivered.behind text)
  | finished => finished
  | failed error => failed (error.behind text)

def Lexer.behind (lexer : Lexer) : Lexer :=
  { lexer with position := lexer.position.behind text }

def Reading.behind (reading : Reading) : Reading where
  outcome := reading.outcome.behind text
  events := reading.events.map (LogEvent.behind text)
  lexer := reading.lexer.behind text

def Run.behind (run : Run) : Run where
  tokens := run.tokens.map (Token.behind text)
  error := run.error.map (LexError.behind text)
  events := run.events.map (LogEvent.behind text)
  lexer := run.lexer.behind text

end Told

theorem column_moved (line column tail : Nat) :
    ((if line = 1 then column + tail else column : Nat) : Int) =
      if (line : Int) = 1 then (column : Int) + tail else column := by
  by_cases first : line = 1
  · simp [first]
  · have later : (line : Int) ≠ 1 := by omega
    simp [first, later]

namespace Lexer

variable {text : List Char} {lexer : Lexer}

theorem consume_behind (firstLine : 1 ≤ lexer.position.line) (span : List Char) :
    (lexer.behind text).consume span = (lexer.consume span).behind text := by
  simp only [consume, behind, after_behind firstLine]

theorem locate_behind (firstLine : 1 ≤ lexer.position.line) (span : List Char) :
    (lexer.behind text).locate span = (lexer.locate span).behind text := by
  have moved : (lexer.behind text).position.after span =
      (lexer.position.after span).behind text := after_behind firstLine span
  rw [locate, moved]
  simp only [locate, behind, Position.behind, Location.behind, column_moved, Int.natCast_add]
  rfl

theorem error_at_behind (fault : LexFault) (place : Position) :
    (lexer.behind text).errorAt fault (place.behind text) =
      (lexer.errorAt fault place).behind text := by
  have first : some (place.line : Int) = some 1 ↔ (place.line : Int) = 1 := Option.some_inj
  simp only [errorAt, behind, Position.behind, LexError.behind, column_moved, Int.natCast_add,
    Option.map_some, first]
  split <;> rfl

theorem unterminated_behind (firstLine : 1 ≤ lexer.position.line) (body : List Char) :
    (lexer.behind text).unterminated body = (lexer.unterminated body).behind text := by
  have place : (lexer.behind text).position = lexer.position.behind text := rfl
  simp only [unterminated, place, after_behind firstLine, error_at_behind]
  rfl

theorem read_front_behind (firstLine : 1 ≤ lexer.position.line) :
    (lexer.behind text).readFront = lexer.readFront.behind text := by
  have rest : (lexer.behind text).rest = lexer.rest := rfl
  have mode : (lexer.behind text).config = lexer.config := rfl
  have place : (lexer.behind text).position = lexer.position.behind text := rfl
  unfold readFront
  rw [rest, mode, place]
  split
  · rfl
  · rw [locate_behind firstLine, consume_behind firstLine]
    rfl
  · rw [error_at_behind]
    rfl
  · exact unterminated_behind firstLine _
  · split
    · exact unterminated_behind firstLine _
    · rw [consume_behind firstLine]
      rfl

theorem next_behind (firstLine : 1 ≤ lexer.position.line) :
    (lexer.behind text).next = lexer.next.behind text := by
  have rest : (lexer.behind text).rest = lexer.rest := rfl
  have skipped : 1 ≤ lexer.skipBlanks.position.line :=
    Nat.le_trans firstLine (line_le_after lexer.position _)
  rw [next, next, skipBlanks, rest, consume_behind firstLine]
  exact read_front_behind skipped

theorem line_le_next (lexer : Lexer) : lexer.position.line ≤ lexer.next.lexer.position.line := by
  have skipped : lexer.position.line ≤ lexer.skipBlanks.position.line :=
    line_le_after lexer.position _
  apply Nat.le_trans skipped
  rw [next]
  generalize lexer.skipBlanks = lexer
  unfold readFront
  split
  · exact Nat.le_refl _
  · exact line_le_after lexer.position _
  · exact Nat.le_refl _
  · exact Nat.le_refl _
  · split
    · exact Nat.le_refl _
    · exact line_le_after lexer.position _

theorem drain_behind (text : List Char) {lexer : Lexer} (firstLine : 1 ≤ lexer.position.line) :
    (lexer.behind text).drain = lexer.drain.behind text := by
  have moved : (lexer.behind text).next = lexer.next.behind text := next_behind firstLine
  have outcomes : (lexer.behind text).next.outcome = lexer.next.outcome.behind text := by
    rw [moved]
    rfl
  cases outcome : lexer.next.outcome with
  | token token =>
      have shorter := length_rest_next_lt outcome
      have later : 1 ≤ lexer.next.lexer.position.line :=
        Nat.le_trans firstLine (line_le_next lexer)
      have rest : (lexer.next.lexer.behind text).drain = lexer.next.lexer.drain.behind text :=
        drain_behind text later
      rw [outcome] at outcomes
      rw [drain_of_token outcomes, drain_of_token outcome, moved]
      simp only [Reading.behind, rest, Run.cons, Run.behind, List.map_cons, List.map_append]
  | finished =>
      rw [outcome] at outcomes
      rw [drain_of_finish outcomes, drain_of_finish outcome, moved]
      rfl
  | failed error =>
      rw [outcome] at outcomes
      rw [drain_of_failure outcomes, drain_of_failure outcome, moved]
      rfl
termination_by lexer.rest.length

end Lexer

end ExprLexer
