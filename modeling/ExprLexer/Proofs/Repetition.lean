import ExprLexer.Proofs.Coverage

/-!
The ends of runs. Each token takes at least one character that is no blank, so no more readings
can deliver one than there are such characters left. The first reading that delivers none leaves
the lexer where every further reading answers the same.
-/

namespace ExprLexer

open Text

namespace Text

def inkCount (text : List Char) : Nat := text.countP fun character => !isBlank character

theorem ink_count_append (first second : List Char) :
    inkCount (first ++ second) = inkCount first + inkCount second :=
  List.countP_append

theorem first_ink_here {text : List Char} {front : Nat} (within : front ≤ text.length)
    (ink : ∀ character, text[front]? = some character → isBlank character = false) :
    FirstInk text front front := by
  apply FirstInk.mk (Nat.le_refl front) within _ ink
  intro index reached before
  omega

theorem first_ink_at_end (text : List Char) : FirstInk text text.length text.length := by
  apply first_ink_here (Nat.le_refl _)
  intro character here
  rw [List.getElem?_length] at here
  contradiction

end Text

theorem lexeme_ink_positive {kind : TokenKind} {span : List Char} (lexeme : IsLexeme kind span) :
    0 < inkCount span := by
  obtain ⟨first, more, rfl, classified⟩ := lexeme_first_class lexeme
  apply List.countP_pos_iff.mpr
  refine ⟨first, List.mem_cons_self, ?_⟩
  rw [Bool.not_eq_true']
  by_contra blank
  rw [Bool.not_eq_false, ← CharClass.of_blank_iff, classified] at blank
  cases kind <;> contradiction

theorem ink_behind_lexeme {source span : List Char} {kind : TokenKind} {place front : Nat}
    (ink : FirstInk source place front) (lexeme : IsLexeme kind span)
    (begins : span <+: source.drop front) :
    inkCount (source.drop (front + span.length)) < inkCount (source.drop place) := by
  obtain ⟨rest, whole⟩ := begins
  have behind : source.drop (front + span.length) = rest := by
    rw [← List.drop_drop, ← whole, List.drop_left]
  have positive := lexeme_ink_positive lexeme
  rw [slice_then_rest source ink.reached, ← whole, behind]
  simp only [ink_count_append]
  omega

namespace Lexer

theorem after_reads_fixed {lexer : Lexer} (fixed : lexer.next.lexer = lexer) (count : Nat) :
    lexer.afterReads count = lexer := by
  induction count with
  | zero => rfl
  | succ count induction => rw [afterReads, induction, fixed]

section Drains

variable {lexer : Lexer}

theorem drain_of_token {token : Token} (delivered : lexer.next.outcome = .token token) :
    lexer.drain = .cons token lexer.next.events lexer.next.lexer.drain := by
  rw [drain]
  split <;> simp_all

theorem drain_of_finish (finished : lexer.next.outcome = .finished) :
    lexer.drain = ⟨[], none, lexer.next.events, lexer.next.lexer⟩ := by
  rw [drain]
  split <;> simp_all

theorem drain_of_failure {error : LexError} (failed : lexer.next.outcome = .failed error) :
    lexer.drain = ⟨[], some error, lexer.next.events, lexer.next.lexer⟩ := by
  rw [drain]
  split <;> simp_all

theorem drain_of_same_next {other : Lexer} (same : lexer.next = other.next) :
    lexer.drain = other.drain := by
  have outcome : lexer.next.outcome = other.next.outcome := congrArg Reading.outcome same
  cases there : other.next.outcome with
  | token token =>
      rw [there] at outcome
      rw [drain_of_token outcome, drain_of_token there, same]
  | finished =>
      rw [there] at outcome
      rw [drain_of_finish outcome, drain_of_finish there, same]
  | failed error =>
      rw [there] at outcome
      rw [drain_of_failure outcome, drain_of_failure there, same]

end Drains

section Places

variable {source : List Char} {file : Option String} {config : LexConfig}

/-- Blanks before the first ink make no difference to a reading. -/
theorem next_at_first_ink {place front : Nat} (within : place ≤ source.length)
    (ink : FirstInk source place front) :
    (atPlace source file config place).next = (atPlace source file config front).next := by
  have here : FirstInk source front front := first_ink_here ink.within ink.ink
  rw [next, next, skip_blanks_at_place within ink, skip_blanks_at_place ink.within here]

theorem next_after_failure {place : Nat} {error : LexError}
    (within : place ≤ source.length)
    (failed : (atPlace source file config place).next.outcome = .failed error) :
    (atPlace source file config place).next.lexer.next =
      (atPlace source file config place).next := by
  have ink := first_ink_exists source within
  have found := next_reading_at file config within ink
  rw [(failure_stays found failed).1]
  exact (next_at_first_ink within ink).symm

theorem next_after_finish {place : Nat} (within : place ≤ source.length)
    (finished : (atPlace source file config place).next.outcome = .finished) :
    (atPlace source file config place).next.lexer.next =
      ⟨.finished, [], (atPlace source file config place).next.lexer⟩ := by
  have ink := first_ink_exists source within
  have found := next_reading_at file config within ink
  rw [finished_leaves_end found finished]
  have further := next_reading_at file config (Nat.le_refl _) (first_ink_at_end source)
  exact reading_at_end further rfl

theorem token_moves_forward {place : Nat} {token : Token} (within : place ≤ source.length)
    (delivered : (atPlace source file config place).next.outcome = .token token) :
    ∃ stop, place < stop ∧ stop ≤ source.length ∧
      inkCount (source.drop stop) < inkCount (source.drop place) ∧
      (atPlace source file config place).next.lexer = atPlace source file config stop := by
  have ink := first_ink_exists source within
  have found := next_reading_at file config within ink
  obtain ⟨span, longest, _, _, _, moved⟩ := delivered_token found delivered
  have positive := lexeme_length_positive longest.lexeme
  have reached := ink.reached
  refine ⟨_, ?_, begins_within ink.within longest.begins,
    ink_behind_lexeme ink longest.lexeme longest.begins, moved⟩
  omega

/-- The ink that is left bounds the readings that deliver tokens. -/
theorem reads_to_last (file : Option String) (config : LexConfig) {place : Nat}
    (within : place ≤ source.length) :
    ∃ calls, calls ≤ inkCount (source.drop place) ∧
      (∀ earlier, earlier < calls → ∃ token,
        ((atPlace source file config place).afterReads earlier).next.outcome = .token token) ∧
      Iteration.isLast ((atPlace source file config place).afterReads calls).next.outcome := by
  cases outcome : (atPlace source file config place).next.outcome with
  | finished => exact ⟨0, Nat.zero_le _, nofun, by rw [afterReads, outcome]; rfl⟩
  | failed error => exact ⟨0, Nat.zero_le _, nofun, by rw [afterReads, outcome]; rfl⟩
  | token token =>
      obtain ⟨stop, forward, stopWithin, less, moved⟩ := token_moves_forward within outcome
      obtain ⟨calls, bounded, delivering, last⟩ := reads_to_last file config stopWithin
      rw [← moved] at delivering last
      refine ⟨calls + 1, by omega, ?_, ?_⟩
      · intro earlier before
        cases earlier with
        | zero => exact ⟨token, outcome⟩
        | succ earlier =>
            rw [← after_reads_next]
            exact delivering earlier (by omega)
      · rw [← after_reads_next]
        exact last
termination_by source.length - place

end Places

end Lexer

/-- In every state that a lexer can be in: a token moves it forward and not beyond the source,
so tokens come to an end, and the first reading without a token is the same for ever. -/
theorem last_reading_repeats (source : String) (file : Option String) (config : LexConfig)
    (count : Nat) :
    let text := source.toList
    let lexer := (Lexer.ofSource source file config).afterReads count
    (∀ token, lexer.next.outcome = .token token →
      lexer.position.offset < lexer.next.lexer.position.offset ∧
        lexer.next.lexer.position.offset ≤ text.length) ∧
    (∃ calls, calls ≤ inkCount (text.drop lexer.position.offset) ∧
      (∀ earlier, earlier < calls →
        ∃ token, (lexer.afterReads earlier).next.outcome = .token token) ∧
      Iteration.isLast (lexer.afterReads calls).next.outcome) ∧
    (lexer.next.outcome = .finished → ∀ further,
      (lexer.next.lexer.afterReads further).next = ⟨.finished, [], lexer.next.lexer⟩) ∧
    (∀ error, lexer.next.outcome = .failed error → ∀ further,
      (lexer.next.lexer.afterReads further).next = lexer.next) := by
  intro text lexer
  obtain ⟨place, within, same⟩ := Lexer.after_reads_at_place source file config count
  have offset : lexer.position.offset = place := congrArg (·.position.offset) same
  rw [offset, show lexer = _ from same]
  refine ⟨?_, Lexer.reads_to_last file config within, ?_, ?_⟩
  · intro token delivered
    obtain ⟨stop, forward, stopWithin, _, moved⟩ := Lexer.token_moves_forward within delivered
    rw [moved]
    exact ⟨forward, stopWithin⟩
  · intro finished further
    have again := Lexer.next_after_finish within finished
    rw [Lexer.after_reads_fixed (by rw [again])]
    exact again
  · intro error failed further
    have again := Lexer.next_after_failure within failed
    rw [Lexer.after_reads_fixed (by rw [again])]
    exact again

end ExprLexer
