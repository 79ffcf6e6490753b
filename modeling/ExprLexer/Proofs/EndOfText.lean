import ExprLexer.Proofs.Repetition

/-!
The end of a text, seen from outside. A lexer is at its end when only blanks are left, and that
predicts its next reading: there is no token and no error to come. Where it is not at its end
there is one, unless all that is left is a string without an end that the mode lets go. A loop
that asks for the end before each reading therefore collects what a whole run delivers.
-/

namespace ExprLexer

open Text

theorem Front.nothing_iff {text : List Char} : Front.of text = .nothing ↔ text = [] := by
  constructor
  · intro front
    have described := front_describes text
    rw [front] at described
    cases described
    rfl
  · rintro rfl
    rfl

theorem Front.open_string_iff {text body : List Char} :
    Front.of text = .openString body ↔
      text = '"' :: body ∧ ∀ character ∈ body, character ≠ '"' ∧ character ≠ '\n' := by
  constructor
  · intro front
    have described := front_describes text
    rw [front] at described
    cases described with
    | openString unbroken => exact ⟨rfl, unbroken⟩
  · rintro ⟨rfl, unbroken⟩
    have inside : ∀ character ∈ body, isStringChar character = true :=
      fun character member => is_string_char_iff.mpr (unbroken character member)
    have quote : CharClass.of '"' = .quote := CharClass.of_quote_iff.mpr rfl
    simp only [Front.of, quote, ofQuote, List.takeWhile_eq_self_iff.mpr inside,
      List.dropWhile_eq_nil_iff.mpr inside]

/-- All that is left is a string without an end, which the mode of the lexer lets go. -/
def Lexer.LetsGo (lexer : Lexer) : Prop :=
  lexer.config.strictStrings = false ∧
    ∃ blanks body, lexer.rest = blanks ++ '"' :: body ∧
      (∀ character ∈ blanks, isBlank character = true) ∧
      ∀ character ∈ body, character ≠ '"' ∧ character ≠ '\n'

namespace Lexer

theorem skipped_rest (lexer : Lexer) :
    lexer.skipBlanks.rest = lexer.rest.dropWhile isBlank := by
  have split : lexer.rest.takeWhile isBlank ++ lexer.rest.dropWhile isBlank = lexer.rest :=
    List.takeWhile_append_dropWhile
  change lexer.rest.drop (lexer.rest.takeWhile isBlank).length = _
  conv => lhs; arg 2; rw [← split]
  exact List.drop_left

theorem at_end_iff_nothing_left (lexer : Lexer) :
    lexer.atEnd = true ↔ lexer.skipBlanks.rest = [] := by
  rw [skipped_rest, List.dropWhile_eq_nil_iff]
  exact List.all_eq_true

theorem lets_go_iff (lexer : Lexer) :
    lexer.LetsGo ↔
      lexer.config.strictStrings = false ∧
        ∃ body, Front.of lexer.skipBlanks.rest = .openString body := by
  simp only [Front.open_string_iff, skipped_rest]
  constructor
  · rintro ⟨lenient, blanks, body, split, blank, unbroken⟩
    refine ⟨lenient, body, ?_, unbroken⟩
    rw [split, List.dropWhile_append_of_pos blank]
    rfl
  · rintro ⟨lenient, body, front, unbroken⟩
    refine ⟨lenient, lexer.rest.takeWhile isBlank, body, ?_, ?_, unbroken⟩
    · rw [← front, List.takeWhile_append_dropWhile]
    · exact fun _ member => List.mem_takeWhile_imp member

theorem next_at_end {lexer : Lexer} (ended : lexer.atEnd = true) :
    lexer.next = ⟨.finished, [], lexer.skipBlanks⟩ := by
  rw [next, readFront, (at_end_iff_nothing_left lexer).mp ended]
  rfl

theorem at_end_for_ever {lexer : Lexer} (ended : lexer.atEnd = true) (further : Nat) :
    (lexer.afterReads further).atEnd = true := by
  induction further with
  | zero => exact ended
  | succ further induction =>
      rw [afterReads, next_at_end induction, atEnd, (at_end_iff_nothing_left _).mp induction]
      rfl

theorem next_letting_go {lexer : Lexer} (going : lexer.LetsGo) :
    ∃ line column, lexer.next.outcome = .finished ∧
      lexer.next.events = [.abandonedString line column] ∧ lexer.next.lexer.rest = [] := by
  obtain ⟨lenient, body, front⟩ := (lets_go_iff lexer).mp going
  have mode : ¬lexer.skipBlanks.config.strictStrings = true := Bool.not_eq_true _ |>.mpr lenient
  have reading : lexer.next = ⟨.finished, [.abandonedString lexer.skipBlanks.position.line
      lexer.skipBlanks.position.column], lexer.skipBlanks.consume ('"' :: body)⟩ := by
    rw [next, readFront, front]
    exact if_neg mode
  rw [reading]
  refine ⟨_, _, rfl, rfl, ?_⟩
  rw [consume, (Front.open_string_iff.mp front).1]
  exact List.drop_length

theorem next_before_end {lexer : Lexer} (more : lexer.atEnd = false)
    (keeping : ¬lexer.LetsGo) :
    (∃ token, lexer.next.outcome = .token token) ∨
      ∃ error, lexer.next.outcome = .failed error := by
  rw [lets_go_iff] at keeping
  rw [next, readFront]
  cases front : Front.of lexer.skipBlanks.rest with
  | nothing =>
      rw [(at_end_iff_nothing_left lexer).mpr (Front.nothing_iff.mp front)] at more
      contradiction
  | lexeme payload span => exact Or.inl ⟨_, rfl⟩
  | unrecognized character => exact Or.inr ⟨_, rfl⟩
  | brokenString body => exact Or.inr ⟨_, rfl⟩
  | openString body =>
      have strict : lexer.skipBlanks.config.strictStrings = true := by
        by_contra lenient
        exact keeping ⟨Bool.not_eq_true _ |>.mp lenient, body, front⟩
      simp only [if_pos strict]
      exact Or.inr ⟨_, rfl⟩

theorem config_of_next (lexer : Lexer) : lexer.next.lexer.config = lexer.config := by
  rw [next, readFront]
  cases Front.of lexer.skipBlanks.rest with
  | openString body =>
      simp only
      split <;> rfl
  | nothing | lexeme _ _ | unrecognized _ | brokenString _ => rfl

theorem lets_go_of_finish {lexer : Lexer} (more : lexer.atEnd = false)
    (finished : lexer.next.outcome = .finished) : lexer.LetsGo := by
  by_contra keeping
  rcases next_before_end more keeping with ⟨_, other⟩ | ⟨_, other⟩
  · rw [finished] at other
    contradiction
  · rw [finished] at other
    contradiction

theorem length_rest_finish_lt {lexer : Lexer} (more : lexer.atEnd = false)
    (finished : lexer.next.outcome = .finished) :
    lexer.next.lexer.rest.length < lexer.rest.length := by
  obtain ⟨_, _, _, _, nothing⟩ := next_letting_go (lets_go_of_finish more finished)
  have something : lexer.rest ≠ [] := by
    intro empty
    rw [atEnd, empty] at more
    contradiction
  rw [nothing]
  exact List.length_pos_iff.mpr something

end Lexer

/-- What a loop collects that asks before each reading whether the lexer is at its end: the
answers in turn, a missing token included, the error that broke the loop off if one did, all
reports, and the lexer afterwards. -/
structure Collection where
  answers : List (Option Token)
  error : Option LexError
  events : List LogEvent
  lexer : Lexer
  deriving DecidableEq

def Collection.cons (answer : Option Token) (events : List LogEvent) (collection : Collection) :
    Collection :=
  { collection with
    answers := answer :: collection.answers
    events := events ++ collection.events }

namespace Lexer

def collect (lexer : Lexer) : Collection :=
  if _ : lexer.atEnd = true then ⟨[], none, [], lexer⟩
  else
    match _ : lexer.next.outcome with
    | .token token => .cons (some token) lexer.next.events lexer.next.lexer.collect
    | .finished => .cons none lexer.next.events lexer.next.lexer.collect
    | .failed error => ⟨[], some error, lexer.next.events, lexer.next.lexer⟩
termination_by lexer.rest.length
decreasing_by
  · exact length_rest_next_lt (by assumption)
  · exact length_rest_finish_lt (Bool.not_eq_true _ |>.mp (by assumption)) (by assumption)

/-- A strict lexer lets nothing go, so its end is known before the reading that finds it. -/
theorem collect_as_drained {lexer : Lexer} (strict : lexer.config.strictStrings = true) :
    lexer.collect.answers = lexer.drain.tokens.map some ∧
      lexer.collect.error = lexer.drain.error ∧ lexer.collect.events = lexer.drain.events := by
  rw [collect]
  split
  · rename_i ended
    have reading := next_at_end ended
    have finished : lexer.next.outcome = .finished := congrArg Reading.outcome reading
    rw [drain_of_finish finished, reading]
    exact ⟨rfl, rfl, rfl⟩
  · rename_i more
    split
    · rename_i token delivered
      have shorter := length_rest_next_lt delivered
      have still : lexer.next.lexer.config.strictStrings = true := by rw [config_of_next, strict]
      obtain ⟨answers, error, events⟩ := collect_as_drained still
      rw [drain_of_token delivered]
      simp only [Collection.cons, Run.cons, answers, error, events, List.map_cons, and_self]
    · rename_i finished
      have going := lets_go_of_finish (Bool.not_eq_true _ |>.mp more) finished
      rw [going.1] at strict
      contradiction
    · rename_i error failed
      rw [drain_of_failure failed]
      exact ⟨rfl, rfl, rfl⟩
termination_by lexer.rest.length

end Lexer

/-- Whether a lexer is at its end predicts its next reading, whatever has been read before. At the
end no token and no error comes, and nothing is reported, for ever. Before the end one of the two
comes, unless all that is left is a string that the mode lets go, which is reported once and brings
the lexer to its end. Hence a strict lexer that is asked before each reading delivers the tokens of
a whole run and never a missing one, and fails as the run does. -/
theorem end_predicts_next_reading (lexer : Lexer) :
    (lexer.atEnd = true → ∀ further,
      (lexer.afterReads further).next.outcome = .finished ∧
        (lexer.afterReads further).next.events = []) ∧
    (lexer.atEnd = false →
      (¬lexer.LetsGo →
        (∃ token, lexer.next.outcome = .token token) ∨
          ∃ error, lexer.next.outcome = .failed error) ∧
      (lexer.LetsGo →
        lexer.next.outcome = .finished ∧ lexer.next.events.map LogEvent.level = [.warning] ∧
          lexer.next.lexer.atEnd = true)) ∧
    (lexer.config.strictStrings = true →
      lexer.collect.answers = lexer.drain.tokens.map some ∧
        lexer.collect.error = lexer.drain.error ∧
        lexer.collect.events = lexer.drain.events) := by
  refine ⟨?_, ?_, Lexer.collect_as_drained⟩
  · intro ended further
    rw [Lexer.next_at_end (Lexer.at_end_for_ever ended further)]
    exact ⟨rfl, rfl⟩
  · intro more
    constructor
    · exact Lexer.next_before_end more
    · intro going
      obtain ⟨line, column, finished, reported, nothing⟩ := Lexer.next_letting_go going
      rw [reported, Lexer.atEnd, nothing]
      exact ⟨finished, rfl, rfl⟩

end ExprLexer
