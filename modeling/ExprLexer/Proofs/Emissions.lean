import ExprLexer.Proofs.PlaceTexts
import ExprLexer.Proofs.Repetition

/-!
What the calls on a lexer let out: tokens, errors and records. Drains and pulls are readings, so all
that is ever let out comes from a reading at some place of the source, and what holds of those
readings holds of every call. Here it follows that an error tells its place as a location does, and
as every token does that stands at the same line and column.
-/

namespace ExprLexer

open Text

inductive Emission where
  | token (token : Token)
  | error (error : LexError)
  | record (event : LogEvent)

inductive Outcome.Emits (outcome : Outcome) (events : List LogEvent) : Emission → Prop where
  | token {token : Token} (delivered : outcome = .token token) : Emits outcome events (.token token)
  | error {error : LexError} (failed : outcome = .failed error) :
      Emits outcome events (.error error)
  | record {event : LogEvent} (reported : event ∈ events) : Emits outcome events (.record event)

inductive Run.Emits (run : Run) : Emission → Prop where
  | token {token : Token} (delivered : token ∈ run.tokens) : Emits run (.token token)
  | error {error : LexError} (failed : run.error = some error) : Emits run (.error error)
  | record {event : LogEvent} (reported : event ∈ run.events) : Emits run (.record event)

inductive Lexer.Emits (lexer : Lexer) (emission : Emission) : Prop where
  | read (emits : lexer.next.outcome.Emits lexer.next.events emission)
  | drain (emits : lexer.drain.Emits emission)
  | pull (iteration : Iteration)
      (emits : (iteration.pull lexer).outcome.Emits (iteration.pull lexer).events emission)

/-- What some call on a lexer over a source lets out, whatever calls came before it. -/
inductive EmittedFrom (source : String) (file : Option String) (config : LexConfig)
    (emission : Emission) : Prop where
  | call {lexer : Lexer} (reached : lexer.Reachable source file config)
      (emits : lexer.Emits emission)

inductive EmittedAt (source : List Char) (file : Option String) (config : LexConfig)
    (emission : Emission) : Prop where
  | reading {front : Nat} {reading : Reading} (within : front ≤ source.length)
      (found : ReadingAt source file config front reading)
      (emits : reading.outcome.Emits reading.events emission)

section Readings

variable {source : List Char} {file : Option String} {config : LexConfig} {emission : Emission}

theorem next_emits {place : Nat} (within : place ≤ source.length)
    (emits : (Lexer.atPlace source file config place).next.outcome.Emits
      (Lexer.atPlace source file config place).next.events emission) :
    EmittedAt source file config emission := by
  have ink := first_ink_exists source within
  exact .reading ink.within (Lexer.next_reading_at file config within ink) emits

theorem drain_emits_first {lexer : Lexer} (emits : lexer.drain.Emits emission) :
    lexer.next.outcome.Emits lexer.next.events emission ∨
      ∃ token, lexer.next.outcome = .token token ∧ lexer.next.lexer.drain.Emits emission := by
  cases outcome : lexer.next.outcome with
  | token token =>
      rw [Lexer.drain_of_token outcome] at emits
      cases emits with
      | token delivered =>
          rcases List.mem_cons.mp delivered with rfl | later
          · exact Or.inl (.token rfl)
          · exact Or.inr ⟨token, rfl, .token later⟩
      | error failed => exact Or.inr ⟨token, rfl, .error failed⟩
      | record reported =>
          rcases List.mem_append.mp reported with first | later
          · exact Or.inl (.record first)
          · exact Or.inr ⟨token, rfl, .record later⟩
  | finished =>
      rw [Lexer.drain_of_finish outcome] at emits
      cases emits with
      | token delivered => contradiction
      | error failed => contradiction
      | record reported => exact Or.inl (.record reported)
  | failed error =>
      rw [Lexer.drain_of_failure outcome] at emits
      cases emits with
      | token delivered => contradiction
      | error failed => exact Or.inl (.error (congrArg Outcome.failed (Option.some.inj failed)))
      | record reported => exact Or.inl (.record reported)

theorem drain_emits {place : Nat} (within : place ≤ source.length)
    (emits : (Lexer.atPlace source file config place).drain.Emits emission) :
    EmittedAt source file config emission := by
  rcases drain_emits_first emits with first | ⟨token, delivered, later⟩
  · exact next_emits within first
  · have ink := first_ink_exists source within
    obtain ⟨span, longest, _, _, _, moved⟩ :=
      delivered_token (Lexer.next_reading_at file config within ink) delivered
    -- the token ends behind the place of this drain, so the later drain is over less text
    have positive := lexeme_length_positive longest.lexeme
    have reached := ink.reached
    have laterWithin := begins_within ink.within longest.begins
    rw [moved] at later
    exact drain_emits laterWithin later
termination_by source.length - place

theorem pull_emits {place : Nat} (within : place ≤ source.length) (iteration : Iteration)
    (emits : (iteration.pull (Lexer.atPlace source file config place)).outcome.Emits
      (iteration.pull (Lexer.atPlace source file config place)).events emission) :
    EmittedAt source file config emission := by
  rw [Iteration.pull] at emits
  split at emits
  · cases emits with
    | token delivered => contradiction
    | error failed => contradiction
    | record reported => contradiction
  · exact next_emits within emits

end Readings

section Sources

variable {source : String} {file : Option String} {config : LexConfig}

theorem emitted_by_reading {emission : Emission}
    (emitted : EmittedFrom source file config emission) :
    EmittedAt source.toList file config emission := by
  obtain ⟨reached, emits⟩ := emitted
  obtain ⟨count, rfl⟩ := (Lexer.reachable_iff_after_reads source file config _).mp reached
  obtain ⟨place, within, same⟩ := Lexer.after_reads_at_place source file config count
  rw [same] at emits
  cases emits with
  | read emits => exact next_emits within emits
  | drain emits => exact drain_emits within emits
  | pull iteration emits => exact pull_emits within iteration emits

theorem emitted_error {error : LexError} (emitted : EmittedFrom source file config (.error error)) :
    ∃ fault place, place ≤ source.toList.length ∧ error = .ofPlace source.toList file fault place ∧
      (fault = .unterminatedString ∨
        ∃ character, fault = .unrecognizedCharacter (String.singleton character)) := by
  obtain ⟨within, found, emits⟩ := emitted_by_reading emitted
  cases emits with
  | error failed =>
      rcases (failure_stays found failed).2 with
        ⟨character, _, rfl⟩ | ⟨stop, _, feed, rfl⟩ | ⟨_, rfl⟩
      · exact ⟨_, _, within, rfl, Or.inr ⟨character, rfl⟩⟩
      · obtain ⟨bound, _⟩ := List.getElem?_eq_some_iff.mp feed
        exact ⟨_, stop, Nat.le_of_lt bound, rfl, Or.inl rfl⟩
      · exact ⟨_, source.toList.length, Nat.le_refl _, rfl, Or.inl rfl⟩

theorem emitted_token {token : Token} (emitted : EmittedFrom source file config (.token token)) :
    token.location.file = file := by
  obtain ⟨_, found, emits⟩ := emitted_by_reading emitted
  cases emits with
  | token delivered =>
      obtain ⟨_, _, _, located, _⟩ := delivered_token found delivered
      rw [located]
      rfl

end Sources

theorem location_text_same {left right : Location} (line : left.line = right.line)
    (column : left.column = right.column) (file : left.file = right.file) :
    left.text = right.text := by
  rw [Location.text, Location.text, line, column, file]

/-- An error tells its place as the location of its line and column does, and so does every token
that any lexer with the same file delivers at that line and column. -/
theorem errors_tell_places_as_locations_do (source : String) (file : Option String)
    (config : LexConfig) (error : LexError)
    (raised : EmittedFrom source file config (.error error)) :
    ∃ place, place ≤ source.toList.length ∧ error.offset = some (place : Int) ∧
      let location : Location :=
        ⟨lineAt source.toList place, columnAt source.toList place, 0, 0, file⟩
      error.text = location.text ++ " " ++ error.message ∧
      ∀ other mode token, EmittedFrom other file mode (.token token) →
        token.location.line = location.line → token.location.column = location.column →
          token.location.text = location.text := by
  obtain ⟨fault, place, within, rfl, _⟩ := emitted_error raised
  refine ⟨place, within, rfl, LexError.text_by_location rfl rfl 0 0, ?_⟩
  intro other mode token delivered line column
  exact location_text_same line column (emitted_token delivered)

/-- The colon of a drive name stands in an error and in a token of another text alike. -/
theorem drive_name_keeps_its_colon :
    let error : LexError := ⟨.unterminatedString, some 1, some 10, some 9, some "C:"⟩
    let token : Token := ⟨.symbol ";", ⟨1, 10, 9, 10, some "C:"⟩⟩
    EmittedFrom "a:b \"open\nrest" (some "C:") ⟨false⟩ (.error error) ∧
      EmittedFrom "         ; x" (some "C:") ⟨true⟩ (.token token) ∧
      error.text = "C::1:10 unterminated string literal" ∧ token.location.text = "C::1:10" := by
  intro error token
  have raised : EmittedFrom "a:b \"open\nrest" (some "C:") ⟨false⟩ (.error error) :=
    .call (.read .fresh) (.read (.error (by decide +kernel)))
  have delivered : EmittedFrom "         ; x" (some "C:") ⟨true⟩ (.token token) :=
    .call .fresh (.read (.token (by decide +kernel)))
  obtain ⟨place, _, offset, text, tokens⟩ := errors_tell_places_as_locations_do _ _ _ error raised
  have same : place = 9 := (Int.ofNat.inj (Option.some.inj offset)).symm
  subst same
  refine ⟨raised, delivered, ?_, ?_⟩
  · rw [text]
    decide +kernel
  · rw [tokens _ _ token delivered (by decide +kernel) (by decide +kernel)]
    decide +kernel

end ExprLexer
