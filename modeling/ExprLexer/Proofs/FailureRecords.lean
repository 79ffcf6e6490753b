import ExprLexer.Proofs.EndOfText
import ExprLexer.Proofs.SharedStream

/-!
The log as an account of failures. A token comes without a record, an error with one that tells
its place, and the end of the text with a warning if a string was given up on the way to it. What
a lexer may still record is decided by what it still answers, so all that it ever records is
nothing, or one warning, or one record for each error.
-/

namespace ExprLexer

open Text

/-- The record of an error. It tells the place of the error and, if a character was at fault,
shows it as the error does. -/
inductive LogEvent.Reports (event : LogEvent) (error : LexError) : Prop where
  | unrecognized {shown : String} {offset : Nat} (level : event.level = .debug)
      (fault : error.fault = .unrecognizedCharacter shown)
      (place : error.offset = some (offset : Int))
      (message : event.message =
        "Unrecognized character " ++ Text.quote shown ++ " at offset " ++ toString offset)
  | unterminated {offset : Nat} (level : event.level = .debug)
      (fault : error.fault = .unterminatedString) (place : error.offset = some (offset : Int))
      (message : event.message = "Unterminated string literal at offset " ++ toString offset)

/-- The warning about a string that was given up, by the place of its opening quote. -/
structure LogEvent.Warns (event : LogEvent) (line column : Nat) : Prop where
  level : event.level = .warning
  message : event.message = "Unterminated string at " ++ toString line ++ ":" ++
    toString column ++ " runs to end of input; treating as end of input"

/-- What a call may come to and record that moves a lexer from one place of a text to another. An
end that is not recorded has only blanks behind it. -/
inductive Accounted (text : List Char) (config : LexConfig) (place stop : Nat) :
    Outcome → List LogEvent → Prop where
  | token (token : Token) : Accounted text config place stop (.token token) []
  | failed {error : LexError} {event : LogEvent} (reports : event.Reports error) :
      Accounted text config place stop (.failed error) [event]
  | quiet (blank : ∀ character ∈ slice text place stop, isBlank character = true) :
      Accounted text config place stop .finished []
  | swallowed {quote : Nat} {event : LogEvent} (lenient : config.strictStrings = false)
      (ink : FirstInk text place quote) (opening : text[quote]? = some '"')
      (endless : NoStop text quote) (ended : stop = text.length)
      (warns : event.Warns (lineAt text quote) (columnAt text quote)) :
      Accounted text config place stop .finished [event]

def Answer.outcome? : Answer → Option Outcome
  | read reading => some reading.outcome
  | pulled pull => some pull.outcome
  | _ => none

def Answer.events : Answer → List LogEvent
  | read reading => reading.events
  | pulled pull => pull.events
  | _ => []

theorem reports_level {event : LogEvent} {error : LexError} (reports : event.Reports error) :
    event.level = .debug := by
  cases reports with
  | unrecognized level _ _ _ => exact level
  | unterminated level _ _ _ => exact level

theorem reading_accounted {source : List Char} {file : Option String} {config : LexConfig}
    {place front : Nat} {reading : Reading} (ink : FirstInk source place front)
    (found : ReadingAt source file config front reading) :
    Accounted source config place reading.lexer.position.offset reading.outcome
      reading.events := by
  cases found with
  | nothing _ => exact .quiet (blank_slice ink)
  | token _ _ => exact .token _
  | unrecognized _ _ => exact .failed (.unrecognized rfl rfl rfl rfl)
  | brokenString _ _ _ => exact .failed (.unterminated rfl rfl rfl rfl)
  | openStrict _ _ _ => exact .failed (.unterminated rfl rfl rfl rfl)
  | openLenient quote endless lenient =>
      exact .swallowed lenient ink quote endless rfl ⟨rfl, rfl⟩

namespace Lexer

def StandsIn (source : List Char) (file : Option String) (config : LexConfig)
    (lexer : Lexer) : Prop :=
  ∃ place, place ≤ source.length ∧ lexer = atPlace source file config place

/-- The levels of all that a lexer has recorded and the number of errors it has raised, by what it
still answers. After a warning it is at its end, and after an error it fails again. -/
inductive Logged (lexer : Lexer) : List LogLevel → Nat → Prop where
  | silent : Logged lexer [] 0
  | abandoned (lenient : lexer.config.strictStrings = false) (ended : lexer.atEnd = true) :
      Logged lexer [.warning] 0
  | failing {error : LexError} (count : Nat) (failed : lexer.next.outcome = .failed error) :
      Logged lexer (List.replicate count .debug) count

/-- What a reader's step comes to for the lexer: one reading, or nothing at all. -/
inductive Serves (lexer : Lexer) (answer : Answer) : Lexer → Prop where
  | reading (outcome : answer.outcome? = some lexer.next.outcome)
      (events : answer.events = lexer.next.events)
      (error : answer.isError = lexer.next.outcome.isFailure) :
      Serves lexer answer lexer.next.lexer
  | nothing (outcome : ∀ outcome, answer.outcome? = some outcome → outcome = .finished)
      (events : answer.events = []) (error : answer.isError = false) :
      Serves lexer answer lexer

section Readings

variable {source : List Char} {file : Option String} {config : LexConfig} {lexer : Lexer}

theorem next_stands (standing : lexer.StandsIn source file config) :
    lexer.next.lexer.StandsIn source file config := by
  obtain ⟨place, within, rfl⟩ := standing
  have ink := first_ink_exists source within
  have found := next_reading_at file config within ink
  obtain ⟨later, _, laterWithin, moved⟩ := reading_leaves_at_place found ink.within
  exact ⟨later, laterWithin, moved⟩

theorem next_accounted (standing : lexer.StandsIn source file config) :
    Accounted source config lexer.position.offset lexer.next.lexer.position.offset
      lexer.next.outcome lexer.next.events := by
  obtain ⟨place, within, rfl⟩ := standing
  have ink := first_ink_exists source within
  exact reading_accounted ink (next_reading_at file config within ink)

theorem end_after_finish (standing : lexer.StandsIn source file config)
    (finished : lexer.next.outcome = .finished) : lexer.next.lexer.atEnd = true := by
  obtain ⟨place, within, rfl⟩ := standing
  have ink := first_ink_exists source within
  rw [finished_leaves_end (next_reading_at file config within ink) finished]
  simp only [atEnd, atPlace, List.drop_length, List.all_nil]

theorem still_failing {error : LexError} (standing : lexer.StandsIn source file config)
    (failed : lexer.next.outcome = .failed error) :
    lexer.next.lexer.next.outcome = .failed error := by
  obtain ⟨place, within, rfl⟩ := standing
  rw [next_after_failure within failed]
  exact failed

theorem logged_from_silence (standing : lexer.StandsIn source file config) :
    lexer.next.lexer.Logged (lexer.next.events.map LogEvent.level)
      lexer.next.outcome.isFailure.toNat := by
  have accounted := next_accounted standing
  have ended := end_after_finish standing
  have failing : ∀ error, lexer.next.outcome = .failed error →
      lexer.next.lexer.next.outcome = .failed error := fun _ => still_failing standing
  have lenientStays : config.strictStrings = false →
      lexer.next.lexer.config.strictStrings = false := by
    obtain ⟨place, _, rfl⟩ := standing
    rw [config_of_next]
    exact id
  generalize lexer.next.outcome = outcome at accounted ended failing ⊢
  generalize lexer.next.events = events at accounted ⊢
  cases accounted with
  | token _ => exact .silent
  | quiet _ => exact .silent
  | @failed error event reports =>
      rw [List.map_singleton, reports_level reports]
      exact .failing 1 (failing error rfl)
  | swallowed lenient _ _ _ _ warns =>
      rw [List.map_singleton, warns.level]
      exact .abandoned (lenientStays lenient) (ended rfl)

theorem logged_behind_warning (lenient : lexer.config.strictStrings = false)
    (ended : lexer.atEnd = true) :
    lexer.next.lexer.Logged (.warning :: lexer.next.events.map LogEvent.level)
      lexer.next.outcome.isFailure.toNat := by
  have further : lexer.next.lexer.atEnd = true := at_end_for_ever ended 1
  have still : lexer.next.lexer.config.strictStrings = false := by rw [config_of_next, lenient]
  have reading := next_at_end ended
  rw [congrArg Reading.outcome reading, congrArg Reading.events reading]
  exact .abandoned still further

theorem logged_behind_failure {error : LexError} (standing : lexer.StandsIn source file config)
    (failed : lexer.next.outcome = .failed error) (count : Nat) :
    lexer.next.lexer.Logged
      (List.replicate count .debug ++ lexer.next.events.map LogEvent.level)
      (count + lexer.next.outcome.isFailure.toNat) := by
  have accounted := next_accounted standing
  have again := still_failing standing failed
  rw [failed] at accounted ⊢
  generalize lexer.next.events = events at accounted ⊢
  cases accounted with
  | failed reports =>
      rw [List.map_singleton, reports_level reports, ← List.replicate_succ']
      exact .failing (count + 1) again

/-- One reading and the records so far: nothing is recorded behind a warning, and only the same
error again behind an error. -/
theorem next_logged {levels : List LogLevel} {errors : Nat}
    (standing : lexer.StandsIn source file config) (logged : lexer.Logged levels errors) :
    lexer.next.lexer.Logged (levels ++ lexer.next.events.map LogEvent.level)
      (errors + lexer.next.outcome.isFailure.toNat) := by
  cases logged with
  | silent =>
      rw [List.nil_append, Nat.zero_add]
      exact logged_from_silence standing
  | abandoned lenient ended =>
      rw [List.singleton_append, Nat.zero_add]
      exact logged_behind_warning lenient ended
  | failing _ failed => exact logged_behind_failure standing failed errors

end Readings

section Steps

variable {source : List Char} {file : Option String} {config : LexConfig} {lexer later : Lexer}
  {answer : Answer}

theorem unasked_serves (unasked : answer.outcome? = none) (events : answer.events = [])
    (error : answer.isError = false) : lexer.Serves answer lexer := by
  apply Serves.nothing _ events error
  intro outcome came
  rw [unasked] at came
  contradiction

theorem pull_serves (iteration : Iteration) (lexer : Lexer) :
    lexer.Serves (.pulled (iteration.pull lexer)) (iteration.pull lexer).lexer := by
  cases closed : iteration.ended with
  | true =>
      rw [pull_over iteration lexer closed]
      apply Serves.nothing _ rfl rfl
      intro outcome came
      exact (Option.some.inj came).symm
  | false =>
      have reading := pull_live iteration lexer closed
      rw [reading.lexer]
      exact .reading (congrArg some reading.outcome) reading.events
        (congrArg Outcome.isFailure reading.outcome)

theorem served_stands (standing : lexer.StandsIn source file config)
    (served : lexer.Serves answer later) : later.StandsIn source file config := by
  cases served with
  | reading _ _ _ => exact next_stands standing
  | nothing _ _ _ => exact standing

theorem served_accounted (standing : lexer.StandsIn source file config)
    (served : lexer.Serves answer later) {outcome : Outcome}
    (came : answer.outcome? = some outcome) :
    Accounted source config lexer.position.offset later.position.offset outcome
      answer.events := by
  cases served with
  | reading read events _ =>
      rw [read] at came
      cases came
      rw [events]
      exact next_accounted standing
  | nothing finished events _ =>
      rw [finished outcome came, events]
      apply Accounted.quiet
      intro character member
      rw [slice, List.drop_take, Nat.sub_self, List.take_zero] at member
      contradiction

theorem served_logged {levels : List LogLevel} {errors : Nat}
    (standing : lexer.StandsIn source file config) (logged : lexer.Logged levels errors)
    (served : lexer.Serves answer later) :
    later.Logged (levels ++ answer.events.map LogEvent.level)
      (errors + answer.isError.toNat) := by
  cases served with
  | reading _ events error =>
      rw [events, error]
      exact next_logged standing logged
  | nothing _ events error =>
      rw [events, error, List.map_nil, List.append_nil]
      exact logged

theorem logged_levels {levels : List LogLevel} {errors : Nat}
    (logged : lexer.Logged levels errors) :
    levels.count .warning ≤ 1 ∧
      (lexer.config.strictStrings = true → levels.count .warning = 0) ∧
      (levels.count .warning = 0 ∨ levels.count .debug = 0) ∧ levels.count .debug = errors := by
  cases logged with
  | silent => exact ⟨Nat.zero_le 1, fun _ => rfl, Or.inl rfl, rfl⟩
  | abandoned lenient _ =>
      refine ⟨Nat.le_refl 1, ?_, Or.inr rfl, rfl⟩
      intro strict
      rw [lenient] at strict
      contradiction
  | failing _ _ =>
      have quiet : (List.replicate errors LogLevel.debug).count .warning = 0 := by
        rw [List.count_replicate]
        rfl
      rw [quiet]
      exact ⟨Nat.zero_le 1, fun _ => rfl, Or.inl rfl, List.count_replicate_self⟩

end Steps

end Lexer

namespace Session

section Runs

variable {session : Session} {name : String} {lexer : Lexer} {source : List Char}
  {file : Option String} {config : LexConfig}

theorem sharing_serves {step : Step} (sharing : Sharing session name lexer)
    (standing : lexer.StandsIn source file config) (shares : step.Shares name) :
    ∃ later, Sharing (session.step step).2 name later ∧
      lexer.Serves (session.step step).1 later := by
  obtain ⟨place, within, placed⟩ := standing
  have resumes : lexer.Resumes lexer.drain [] :=
    ⟨⟨source, file, config, place, within, placed⟩, List.nil_append _, rfl⟩
  have taken := reader_step sharing shares
  obtain ⟨later, laterSharing, _⟩ := step_resumes sharing resumes taken
  have held := laterSharing.only
  exists later
  apply And.intro laterSharing
  generalize (session.step step).1 = answer at taken ⊢
  generalize (session.step step).2 = next at taken held
  cases taken with
  | read =>
      rw [updateLexer, sharing.only] at held
      cases held
      exact .reading rfl rfl rfl
  | iterate iteration =>
      rw [putIteration, sharing.only] at held
      cases held
      exact Lexer.unasked_serves rfl rfl rfl
  | nobody absent =>
      rw [sharing.only] at held
      cases held
      exact Lexer.unasked_serves rfl rfl rfl
  | @pull iteration state found =>
      rw [putIteration, updateLexer, sharing.only] at held
      cases held
      exact Lexer.pull_serves state lexer

theorem run_logged {steps : List Step} {levels : List LogLevel} {errors : Nat}
    (sharing : Sharing session name lexer) (standing : lexer.StandsIn source file config)
    (logged : lexer.Logged levels errors) (shares : ∀ step ∈ steps, step.Shares name) :
    ∃ later, Sharing (session.run false steps).2 name later ∧
      later.StandsIn source file config ∧
      later.Logged
        (levels ++ ((session.run false steps).1.flatMap Answer.events).map LogEvent.level)
        (errors + (session.run false steps).1.countP Answer.isError) := by
  induction steps generalizing session lexer levels errors with
  | nil =>
      rw [run, List.flatMap_nil, List.map_nil, List.append_nil]
      exact ⟨lexer, sharing, standing, logged⟩
  | cons first rest induction =>
      obtain ⟨next, nextSharing, served⟩ :=
        sharing_serves sharing standing (shares first List.mem_cons_self)
      obtain ⟨later, laterSharing, laterStanding, laterLogged⟩ := induction nextSharing
        (Lexer.served_stands standing served) (Lexer.served_logged standing logged served)
        (fun step member => shares step (List.mem_cons_of_mem first member))
      have raised : (if (session.step first).1.isError = true then 1 else 0) =
          (session.step first).1.isError.toNat := by
        cases (session.step first).1.isError with
        | true => rfl
        | false => rfl
      rw [run_cons]
      refine ⟨later, laterSharing, laterStanding, ?_⟩
      rw [List.flatMap_cons, List.map_append, ← List.append_assoc, List.countP_cons, raised,
        Nat.add_comm (List.countP _ _), ← Nat.add_assoc]
      exact laterLogged

end Runs

end Session

/-- The log accounts for every failure and for nothing else. Whatever direct readings and pulls
came before, in whatever order, the next of them records what its outcome calls for. Hence a lexer
warns at most once in its life and never in the strict mode, never both warns and records an
error, and records as many errors as it raises. -/
theorem log_accounts_for_failures (source name : String) (file : Option String)
    (config : LexConfig) (steps : List Step) (shares : ∀ step ∈ steps, step.Shares name) :
    let run := ((Session.fresh.withActive config).make name source file).2.run false steps
    let levels := (run.1.flatMap Answer.events).map LogEvent.level
    (∃ lexer, run.2.lexer? name = some (0, lexer) ∧ ∀ call : Step, call.Shares name →
      ∃ later, (run.2.step call).2.lexer? name = some (0, later) ∧
        ∀ outcome, (run.2.step call).1.outcome? = some outcome →
          Accounted source.toList config lexer.position.offset later.position.offset outcome
            (run.2.step call).1.events) ∧
    levels.count .warning ≤ 1 ∧
    (config.strictStrings = true → levels.count .warning = 0) ∧
    (levels.count .warning = 0 ∨ levels.count .debug = 0) ∧
    levels.count .debug = run.1.countP Answer.isError := by
  intro run levels
  have fresh : (Lexer.ofSource source file config).StandsIn source.toList file config :=
    ⟨0, Nat.zero_le _, Lexer.of_source_at_place source file config⟩
  obtain ⟨lexer, sharing, standing, logged⟩ := Session.run_logged
    (Session.make_sharing source name file config) fresh .silent shares
  have counts := Lexer.logged_levels logged
  have mode : lexer.config = config := by
    obtain ⟨place, _, rfl⟩ := standing
    rfl
  rw [List.nil_append, Nat.zero_add, mode] at counts
  refine ⟨⟨lexer, Session.sharing_lexer sharing, ?_⟩, counts⟩
  intro call callShares
  obtain ⟨later, laterSharing, served⟩ := Session.sharing_serves sharing standing callShares
  refine ⟨later, Session.sharing_lexer laterSharing, ?_⟩
  intro outcome came
  exact Lexer.served_accounted standing served came

/-- One error met by two iterations and two direct readings, four times in all, and once more by an
iteration that is over and therefore neither raises nor records it. -/
theorem error_met_four_times :
    let steps : List Step :=
      [ .iterate "shared" "first", .iterate "shared" "second", .pull "first", .read "shared",
        .pull "second", .pull "first", .pull "second", .read "shared" ]
    let run := ((Session.fresh.withActive ⟨false⟩).make "shared" "x # \"y" none).2.run false steps
    let levels := (run.1.flatMap Answer.events).map LogEvent.level
    (∀ step ∈ steps, step.Shares "shared") ∧ run.1.countP Answer.isError = 4 ∧
      levels.count .warning = 0 ∧ levels.count .debug = 4 := by
  intro steps run levels
  have shares : ∀ step ∈ steps, step.Shares "shared" := by simp [steps, Step.Shares]
  have raised : run.1.countP Answer.isError = 4 := by decide +kernel
  obtain ⟨_, _, _, either, recorded⟩ :=
    log_accounts_for_failures "x # \"y" "shared" none ⟨false⟩ steps shares
  change levels.count .debug = run.1.countP Answer.isError at recorded
  change levels.count .warning = 0 ∨ levels.count .debug = 0 at either
  rw [recorded, raised] at either
  exact ⟨shares, raised, either.resolve_right (by decide), by rw [recorded, raised]⟩

end ExprLexer
