import ExprLexer.Lexer.Drain
import ExprLexer.Lexer.Iteration
import ExprLexer.Proofs.LongestMatch

/-!
Whole runs, told by the source text. A run is a chain of tokens, each the longest lexeme at the
first ink behind the one before, and one last reading that delivers none. Everything about a run
follows by induction on the chain. Draining a lexer and iterating over it are readings too, so
the states after so many readings are all that a lexer can be in.
-/

namespace ExprLexer

open Text

namespace Lexer

theorem after_reads_next (lexer : Lexer) (count : Nat) :
    lexer.next.lexer.afterReads count = lexer.afterReads (count + 1) := by
  induction count with
  | zero => rfl
  | succ count induction => rw [afterReads, induction, ← afterReads]

theorem after_reads_again (lexer : Lexer) (first second : Nat) :
    (lexer.afterReads first).afterReads second = lexer.afterReads (first + second) := by
  induction second with
  | zero => rfl
  | succ second induction =>
      rw [afterReads, induction, ← afterReads]
      rfl

theorem drain_after_reads (lexer : Lexer) :
    ∃ count, lexer.drain.lexer = lexer.afterReads count := by
  rw [drain]
  split
  · rename_i token delivered
    have shorter := length_rest_next_lt delivered
    rcases drain_after_reads lexer.next.lexer with ⟨count, same⟩
    rw [after_reads_next] at same
    exact ⟨count + 1, same⟩
  · exact ⟨1, rfl⟩
  · exact ⟨1, rfl⟩
termination_by lexer.rest.length

theorem pull_after_reads (iteration : Iteration) (lexer : Lexer) :
    ∃ count, (iteration.pull lexer).lexer = lexer.afterReads count := by
  by_cases ended : iteration.ended = true
  · rw [Iteration.pull, if_pos ended]
    exact ⟨0, rfl⟩
  · rw [Iteration.pull, if_neg ended]
    exact ⟨1, rfl⟩

/-- The states of a lexer over a source, with everything that can move it. -/
inductive Reachable (source : String) (file : Option String) (config : LexConfig) :
    Lexer → Prop where
  | fresh : Reachable source file config (ofSource source file config)
  | read {lexer : Lexer} (before : Reachable source file config lexer) :
      Reachable source file config lexer.next.lexer
  | drain {lexer : Lexer} (before : Reachable source file config lexer) :
      Reachable source file config lexer.drain.lexer
  | pull {lexer : Lexer} (iteration : Iteration) (before : Reachable source file config lexer) :
      Reachable source file config (iteration.pull lexer).lexer

theorem reachable_iff_after_reads (source : String) (file : Option String) (config : LexConfig)
    (lexer : Lexer) :
    Reachable source file config lexer ↔
      ∃ count, lexer = (ofSource source file config).afterReads count := by
  constructor
  · intro reached
    induction reached with
    | fresh => exact ⟨0, rfl⟩
    | read _ induction =>
        rcases induction with ⟨count, rfl⟩
        exact ⟨count + 1, rfl⟩
    | @drain lexer _ induction =>
        rcases induction with ⟨first, rfl⟩
        rcases drain_after_reads ((ofSource source file config).afterReads first) with
          ⟨second, same⟩
        rw [after_reads_again] at same
        exact ⟨first + second, same⟩
    | @pull lexer iteration _ induction =>
        rcases induction with ⟨first, rfl⟩
        rcases pull_after_reads iteration ((ofSource source file config).afterReads first) with
          ⟨second, same⟩
        rw [after_reads_again] at same
        exact ⟨first + second, same⟩
  · rintro ⟨count, rfl⟩
    induction count with
    | zero => exact .fresh
    | succ count induction => exact .read induction

end Lexer

/-- Tokens that a lexer delivers one after the other from `place` on; the last ends at `stop`. -/
inductive TokensFrom (source : List Char) (file : Option String) :
    Nat → List Token → Nat → Prop where
  | none (place : Nat) : TokensFrom source file place [] place
  | token {place start stop : Nat} {span : List Char} {token : Token} {tokens : List Token}
      (ink : FirstInk source place start)
      (longest : IsLongestLexeme (source.drop start) token.payload.kind span)
      (spelled : token.payload.SpelledBy span)
      (located : token.location = .ofPlaces source file start (start + span.length))
      (later : TokensFrom source file (start + span.length) tokens stop) :
      TokensFrom source file place (token :: tokens) stop

variable {source : List Char} {file : Option String} {config : LexConfig}

theorem tokens_from_ordered {place stop : Nat} {tokens : List Token}
    (chain : TokensFrom source file place tokens stop) (within : place ≤ source.length) :
    place ≤ stop ∧ stop ≤ source.length := by
  induction chain with
  | none place => exact ⟨Nat.le_refl place, within⟩
  | @token _ start _ span _ _ ink longest _ _ _ induction =>
      have reached := ink.reached
      have later := induction (begins_within ink.within longest.begins)
      omega

/-- The last reading of a run: it delivers no token, and the run ends with its error if it has
one, its events and its lexer. -/
def Reading.Ends (reading : Reading) (run : Run) : Prop :=
  run.events = reading.events ∧ run.lexer = reading.lexer ∧
    match reading.outcome with
    | .token _ => False
    | .finished => run.error = none
    | .failed error => run.error = some error

/-- The run of a lexer that has come to a place of its source. Tokens report nothing, so all
events of a run are those of its last reading. -/
theorem drain_at_place (file : Option String) (config : LexConfig) {place : Nat}
    (within : place ≤ source.length) :
    ∃ stop front reading,
      TokensFrom source file place (Lexer.atPlace source file config place).drain.tokens stop ∧
      FirstInk source stop front ∧ ReadingAt source file config front reading ∧
      reading.Ends (Lexer.atPlace source file config place).drain := by
  have ink := first_ink_exists source within
  have found := Lexer.next_reading_at file config within ink
  generalize fronted : place + ((source.drop place).takeWhile isBlank).length = front at ink found
  rw [Lexer.drain]
  split
  · rename_i token delivered
    obtain ⟨span, longest, spelled, located, quiet, moved⟩ := delivered_token found delivered
    have positive := lexeme_length_positive longest.lexeme
    have reached := ink.reached
    have laterWithin := begins_within ink.within longest.begins
    obtain ⟨stop, last, reading, chain, lastInk, lastFound, ends⟩ :=
      drain_at_place file config laterWithin
    rw [moved, quiet]
    exact ⟨stop, last, reading, .token ink longest spelled located chain, lastInk, lastFound, ends⟩
  · rename_i finished
    refine ⟨place, front, _, .none place, ink, found, rfl, rfl, ?_⟩
    rw [finished]
  · rename_i error failed
    refine ⟨place, front, _, .none place, ink, found, rfl, rfl, ?_⟩
    rw [failed]
termination_by source.length - place

end ExprLexer
