import ExprLexer.Proofs.Concatenation

/-!
The two modes. A strict and a lenient lexer over one source stay together for as long as either
delivers tokens, and their last readings are the same too, unless the text ends inside a string.
There the strict lexer stays in front of the quote with an error, and the lenient one gives up
what is left of the text with a warning.
-/

namespace ExprLexer

open Text

def Lexer.inMode (lexer : Lexer) (config : LexConfig) : Lexer := { lexer with config := config }

/-- The same reading by a lexer of another mode: outcome, events and place do not change. -/
def Reading.inMode (reading : Reading) (config : LexConfig) : Reading :=
  { reading with lexer := reading.lexer.inMode config }

def Run.inMode (run : Run) (config : LexConfig) : Run :=
  { run with lexer := run.lexer.inMode config }

/-- The readings of both modes at a quote that nothing behind it closes or breaks. -/
structure ModesPart (source : List Char) (file : Option String) (front : Nat)
    (strict lenient : Reading) : Prop where
  quote : source[front]? = some '"'
  endless : NoStop source front
  raised : strict =
    ⟨.failed (.ofPlace source file .unterminatedString source.length),
      [.unterminatedString source.length], .atPlace source file ⟨true⟩ front⟩
  abandoned : lenient =
    ⟨.finished, [.abandonedString (lineAt source front) (columnAt source front)],
      .atPlace source file ⟨false⟩ source.length⟩
  warned : lenient.events.map LogEvent.level = [.warning]

section Places

variable {source : List Char}

theorem modes_part_at_open_string {file : Option String} {front : Nat} {lenient : Reading}
    (quote : source[front]? = some '"') (endless : NoStop source front)
    (found : ReadingAt source file ⟨false⟩ front lenient) :
    ModesPart source file front
      ⟨.failed (.ofPlace source file .unterminatedString source.length),
        [.unterminatedString source.length], .atPlace source file ⟨true⟩ front⟩ lenient := by
  have reading := reading_at_open_string found quote endless
  rw [if_neg Bool.false_ne_true] at reading
  rw [reading]
  exact ⟨quote, endless, rfl, rfl, rfl⟩

/-- One reading in both modes. The mode is asked for in one case only, where no stop is found. -/
theorem next_in_modes (file : Option String) {place : Nat} (within : place ≤ source.length) :
    (Lexer.atPlace source file ⟨false⟩ place).next =
        (Lexer.atPlace source file ⟨true⟩ place).next.inMode ⟨false⟩ ∨
      ∃ front, FirstInk source place front ∧
        ModesPart source file front (Lexer.atPlace source file ⟨true⟩ place).next
          (Lexer.atPlace source file ⟨false⟩ place).next := by
  have ink := first_ink_exists source within
  have strict := Lexer.next_reading_at file ⟨true⟩ within ink
  have lenient := Lexer.next_reading_at file ⟨false⟩ within ink
  generalize (Lexer.atPlace source file ⟨true⟩ place).next = reading at strict ⊢
  cases strict with
  | nothing ended =>
      left
      exact reading_at_end lenient ended
  | token longest spelled =>
      left
      exact token_reading file ⟨false⟩ within ink longest spelled
  | unrecognized here unclassed =>
      left
      exact reading_at_other lenient here unclassed
  | brokenString quote first feed =>
      left
      exact reading_at_break lenient quote first feed
  | openStrict quote endless _ =>
      right
      exact ⟨_, ink, modes_part_at_open_string quote endless lenient⟩
  | openLenient _ _ impossible => contradiction

theorem drain_in_modes (file : Option String) {place : Nat} (within : place ≤ source.length) :
    (Lexer.atPlace source file ⟨false⟩ place).drain =
        (Lexer.atPlace source file ⟨true⟩ place).drain.inMode ⟨false⟩ ∨
      ((Lexer.atPlace source file ⟨true⟩ place).drain.error ≠ none ∧
        (Lexer.atPlace source file ⟨false⟩ place).drain.error = none) := by
  rcases next_in_modes file within with same | ⟨front, _, part⟩
  · have outcomes : (Lexer.atPlace source file ⟨false⟩ place).next.outcome =
        (Lexer.atPlace source file ⟨true⟩ place).next.outcome := by
      rw [same]
      rfl
    cases outcome : (Lexer.atPlace source file ⟨true⟩ place).next.outcome with
    | token token =>
        obtain ⟨stop, forward, stopWithin, _, moved⟩ := Lexer.token_moves_forward within outcome
        have lenientMoved : (Lexer.atPlace source file ⟨false⟩ place).next.lexer =
            .atPlace source file ⟨false⟩ stop := by
          rw [same, Reading.inMode, moved]
          rfl
        rw [outcome] at outcomes
        rw [Lexer.drain_of_token outcomes, Lexer.drain_of_token outcome, moved, lenientMoved]
        rcases drain_in_modes file stopWithin with together | apart
        · left
          rw [together, same]
          rfl
        · right
          exact apart
    | finished =>
        left
        rw [outcome] at outcomes
        rw [Lexer.drain_of_finish outcomes, Lexer.drain_of_finish outcome, same]
        rfl
    | failed error =>
        left
        rw [outcome] at outcomes
        rw [Lexer.drain_of_failure outcomes, Lexer.drain_of_failure outcome, same]
        rfl
  · right
    constructor
    · rw [Lexer.drain_of_failure (congrArg Reading.outcome part.raised)]
      exact nofun
    · rw [Lexer.drain_of_finish (congrArg Reading.outcome part.abandoned)]
termination_by source.length - place

end Places

/-- Two lexers of both modes that are read from in turn stand at one place for as long as one of
them has more to deliver. -/
theorem modes_stay_together (source : String) (file : Option String) (count : Nat)
    (going : ∀ earlier, earlier < count →
      Iteration.isLast ((Lexer.ofSource source file ⟨true⟩).afterReads earlier).next.outcome =
          false ∨
        Iteration.isLast ((Lexer.ofSource source file ⟨false⟩).afterReads earlier).next.outcome =
          false) :
    ∃ place, place ≤ source.toList.length ∧
      (Lexer.ofSource source file ⟨true⟩).afterReads count =
        .atPlace source.toList file ⟨true⟩ place ∧
      (Lexer.ofSource source file ⟨false⟩).afterReads count =
        .atPlace source.toList file ⟨false⟩ place := by
  induction count with
  | zero => exact ⟨0, Nat.zero_le _, rfl, rfl⟩
  | succ count induction =>
      obtain ⟨place, within, strict, lenient⟩ :=
        induction (fun earlier before => going earlier (Nat.lt_succ_of_lt before))
      have either := going count (Nat.lt_succ_self count)
      rw [Lexer.afterReads, Lexer.afterReads, strict, lenient]
      rw [strict, lenient] at either
      rcases next_in_modes file within with same | ⟨front, _, part⟩
      · have ink := first_ink_exists source.toList within
        have found := Lexer.next_reading_at file ⟨true⟩ within ink
        obtain ⟨stop, _, stopWithin, moved⟩ := Lexer.reading_leaves_at_place found ink.within
        refine ⟨stop, stopWithin, moved, ?_⟩
        rw [same, Reading.inMode, moved]
        rfl
      · -- Where the modes part, neither reading delivers a token.
        rw [part.raised, part.abandoned] at either
        rcases either with delivering | delivering <;> contradiction

/-- Strict and lenient lexing differ only at a string that runs off the end of the text. Read from
in turn, the two lexers answer alike up to and at the last reading of each, or part there; a whole
run without an error in the strict mode, or with one in the lenient mode, is the same in both. -/
theorem modes_differ_at_open_string (source : String) (file : Option String) :
    (∀ count,
      (∀ earlier, earlier < count →
        Iteration.isLast ((Lexer.ofSource source file ⟨true⟩).afterReads earlier).next.outcome =
            false ∨
          Iteration.isLast ((Lexer.ofSource source file ⟨false⟩).afterReads earlier).next.outcome =
            false) →
      let strict := (Lexer.ofSource source file ⟨true⟩).afterReads count
      let lenient := (Lexer.ofSource source file ⟨false⟩).afterReads count
      lenient = strict.inMode ⟨false⟩ ∧
        (lenient.next = strict.next.inMode ⟨false⟩ ∨
          ∃ front, FirstInk source.toList strict.position.offset front ∧
            ModesPart source.toList file front strict.next lenient.next)) ∧
    ((tokenize source file ⟨true⟩).error = none →
      tokenize source file ⟨false⟩ = (tokenize source file ⟨true⟩).inMode ⟨false⟩) ∧
    (∀ error, (tokenize source file ⟨false⟩).error = some error →
      tokenize source file ⟨false⟩ = (tokenize source file ⟨true⟩).inMode ⟨false⟩) := by
  have runs : tokenize source file ⟨false⟩ = (tokenize source file ⟨true⟩).inMode ⟨false⟩ ∨
      ((tokenize source file ⟨true⟩).error ≠ none ∧ (tokenize source file ⟨false⟩).error = none) :=
    drain_in_modes file (Nat.zero_le source.toList.length)
  refine ⟨?_, ?_, ?_⟩
  · intro count going strict lenient
    obtain ⟨place, within, strictPlace, lenientPlace⟩ :=
      modes_stay_together source file count going
    change strict = _ at strictPlace
    change lenient = _ at lenientPlace
    rw [strictPlace, lenientPlace]
    exact ⟨rfl, next_in_modes file within⟩
  · intro clean
    rcases runs with same | ⟨raised, _⟩
    · exact same
    · exact absurd clean raised
  · intro error raised
    rcases runs with same | ⟨_, clean⟩
    · exact same
    · rw [clean] at raised
      contradiction

end ExprLexer
