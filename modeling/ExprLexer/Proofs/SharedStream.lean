import ExprLexer.Proofs.Moments
import ExprLexer.Proofs.Repetition

/-!
One stream for all readers. Direct readings and the pulls of any number of iterations over one
lexer, in whatever order they come, deliver the tokens of its source in turn, each of them once.
A lexer keeps no record of who asked, so what it has delivered and what a drain would still give
always make up the whole stream; an iteration that is over adds nothing to either.
-/

namespace ExprLexer

open Text

def Outcome.token? : Outcome → Option Token
  | .token delivered => some delivered
  | .finished => none
  | .failed _ => none

def Answer.token? : Answer → Option Token
  | read reading => reading.outcome.token?
  | pulled pull => pull.outcome.token?
  | _ => none

def Run.ending (run : Run) : Outcome :=
  match run.error with
  | none => .finished
  | some error => .failed error

/-- The steps of readers that share one lexer. -/
def Step.Shares (name : String) : Step → Prop
  | read lexer => lexer = name
  | iterate lexer _ => lexer = name
  | pull _ => True
  | _ => False

def Step.Renews (name : String) : Step → Prop
  | iterate _ iteration => iteration = name
  | _ => False

structure Pull.IsReading (pull : Pull) (lexer : Lexer) : Prop where
  outcome : pull.outcome = lexer.next.outcome
  events : pull.events = lexer.next.events
  lexer : pull.lexer = lexer.next.lexer

structure Pull.IsStop (pull : Pull) (lexer : Lexer) : Prop where
  outcome : pull.outcome = .finished
  events : pull.events = []
  lexer : pull.lexer = lexer

theorem pull_live (iteration : Iteration) (lexer : Lexer) (live : iteration.ended = false) :
    (iteration.pull lexer).IsReading lexer := by
  simp only [Iteration.pull, live, Bool.false_eq_true, if_false]
  exact ⟨rfl, rfl, rfl⟩

theorem pull_over (iteration : Iteration) (lexer : Lexer) (closed : iteration.ended = true) :
    iteration.pull lexer = ⟨.finished, [], iteration, lexer⟩ := by
  rw [Iteration.pull, if_pos closed]

theorem pull_ends (iteration : Iteration) (lexer : Lexer) :
    (iteration.pull lexer).iteration.ended =
      Iteration.isLast (iteration.pull lexer).outcome := by
  cases closed : iteration.ended with
  | true =>
      rw [pull_over iteration lexer closed]
      exact closed
  | false => simp only [Iteration.pull, closed, Bool.false_eq_true, if_false]

namespace Lexer

/-- A lexer that stands at some place of some source, and from which a drain would give what is
missing of a stream. -/
structure Resumes (stream : Run) (delivered : List Token) (lexer : Lexer) : Prop where
  placed : ∃ source file config place, place ≤ source.length ∧
    lexer = atPlace source file config place
  tokens : delivered ++ lexer.drain.tokens = stream.tokens
  error : lexer.drain.error = stream.error

variable {stream : Run} {delivered : List Token} {lexer : Lexer}

theorem fresh_resumes (source : String) (file : Option String) (config : LexConfig) :
    Resumes (tokenize source file config) [] (ofSource source file config) := by
  refine ⟨⟨source.toList, file, config, 0, Nat.zero_le _, of_source_at_place ..⟩, ?_, rfl⟩
  exact List.nil_append _

theorem unmoved_resumes (resumes : Resumes stream delivered lexer) :
    Resumes stream (delivered ++ []) lexer := by
  rw [List.append_nil]
  exact resumes

theorem ending_of_last (last : Iteration.isLast lexer.next.outcome = true) :
    lexer.next.outcome = lexer.drain.ending := by
  cases outcome : lexer.next.outcome with
  | token token =>
      rw [outcome] at last
      contradiction
  | finished => rw [drain_of_finish outcome]; rfl
  | failed error => rw [drain_of_failure outcome]; rfl

theorem resumes_ending (resumes : Resumes stream delivered lexer)
    (last : Iteration.isLast lexer.next.outcome = true) : lexer.next.outcome = stream.ending := by
  rw [ending_of_last last, Run.ending, Run.ending, resumes.error]

theorem next_stays_last (resumes : Resumes stream delivered lexer)
    (last : Iteration.isLast lexer.next.outcome = true) :
    Iteration.isLast lexer.next.lexer.next.outcome = true := by
  obtain ⟨source, file, config, place, within, rfl⟩ := resumes.placed
  cases outcome : (atPlace source file config place).next.outcome with
  | token token =>
      rw [outcome] at last
      contradiction
  | finished => rw [next_after_finish within outcome]; rfl
  | failed error => rw [next_after_failure within outcome]; exact last

theorem drain_of_next {source : List Char} {file : Option String} {config : LexConfig}
    {place : Nat} (within : place ≤ source.length) :
    let lexer := atPlace source file config place
    lexer.drain.tokens = lexer.next.outcome.token?.toList ++ lexer.next.lexer.drain.tokens ∧
      lexer.drain.error = lexer.next.lexer.drain.error := by
  intro lexer
  cases outcome : lexer.next.outcome with
  | token token =>
      rw [drain_of_token outcome]
      exact ⟨rfl, rfl⟩
  | finished =>
      have still := next_after_finish within outcome
      rw [drain_of_finish outcome, drain_of_finish (congrArg Reading.outcome still)]
      exact ⟨rfl, rfl⟩
  | failed failure =>
      rw [drain_of_same_next (next_after_failure within outcome)]
      exact ⟨rfl, rfl⟩

theorem next_resumes (resumes : Resumes stream delivered lexer) :
    Resumes stream (delivered ++ lexer.next.outcome.token?.toList) lexer.next.lexer := by
  obtain ⟨source, file, config, place, within, rfl⟩ := resumes.placed
  have found := next_reading_at file config within (first_ink_exists source within)
  obtain ⟨later, _, laterWithin, moved⟩ :=
    reading_leaves_at_place found (first_ink_exists source within).within
  obtain ⟨tokens, error⟩ := drain_of_next within
  refine ⟨⟨source, file, config, later, laterWithin, moved⟩, ?_, ?_⟩
  · rw [List.append_assoc, ← tokens]
    exact resumes.tokens
  · rw [← error]
    exact resumes.error

end Lexer

namespace Session

/-- A session with one lexer, under a name, and iterations over it; those that are over have met
its last reading. -/
structure Sharing (session : Session) (name : String) (lexer : Lexer) : Prop where
  only : session.lexers = [lexer]
  named : session.lexerNames.lookup name = some 0
  iterations : ∀ iteration number state,
    session.iterations.lookup iteration = some (number, state) →
      number = 0 ∧ (state.ended = true → Iteration.isLast lexer.next.outcome = true)

section Steps

variable {session : Session} {name : String} {lexer : Lexer}

theorem sharing_lexer (sharing : Sharing session name lexer) :
    session.lexer? name = some (0, lexer) := by
  simp [lexer?, sharing.named, sharing.only]

theorem sharing_iteration (sharing : Sharing session name lexer) {iteration : String}
    {number : Nat} {state : Iteration}
    (found : session.iterations.lookup iteration = some (number, state)) :
    session.iteration? iteration = some (0, lexer, state) := by
  have first := (sharing.iterations iteration number state found).1
  simp [iteration?, found, first, sharing.only]

theorem make_sharing (source name : String) (file : Option String) (config : LexConfig) :
    Sharing ((fresh.withActive config).make name source file).2 name
      (.ofSource source file config) := by
  refine ⟨rfl, List.lookup_cons_self, ?_⟩
  intro iteration number state found
  contradiction

theorem update_sharing {later : Lexer} (sharing : Sharing session name lexer)
    (last : Iteration.isLast lexer.next.outcome = true →
      Iteration.isLast later.next.outcome = true) :
    Sharing (session.updateLexer 0 later) name later := by
  refine ⟨?_, sharing.named, ?_⟩
  · simp [updateLexer, sharing.only]
  · intro iteration number state found
    obtain ⟨first, closed⟩ := sharing.iterations iteration number state found
    exact ⟨first, fun ended => last (closed ended)⟩

theorem put_sharing (sharing : Sharing session name lexer) (iteration : String)
    {state : Iteration}
    (closed : state.ended = true → Iteration.isLast lexer.next.outcome = true) :
    Sharing (session.putIteration iteration 0 state) name lexer := by
  refine ⟨sharing.only, sharing.named, ?_⟩
  intro other number held found
  rcases lookup_put found with ⟨_, same⟩ | ⟨_, earlier⟩
  · cases same
    exact ⟨rfl, closed⟩
  · exact sharing.iterations other number held earlier

theorem read_step (sharing : Sharing session name lexer) :
    session.step (.read name) = (.read lexer.next, session.updateLexer 0 lexer.next.lexer) :=
  read_found (sharing_lexer sharing)

theorem drain_step (sharing : Sharing session name lexer) :
    session.step (.drain name) =
      (.drained lexer.drain, session.updateLexer 0 lexer.drain.lexer) :=
  drain_found (sharing_lexer sharing)

theorem iterate_step (sharing : Sharing session name lexer) (iteration : String) :
    session.step (.iterate name iteration) =
      (.iterating lexer, session.putIteration iteration 0 .fresh) :=
  iterate_found (sharing_lexer sharing) iteration

theorem pull_step (sharing : Sharing session name lexer) {iteration : String} {number : Nat}
    {state : Iteration}
    (found : session.iterations.lookup iteration = some (number, state)) :
    session.step (.pull iteration) =
      (.pulled (state.pull lexer),
        (session.updateLexer 0 (state.pull lexer).lexer).putIteration iteration 0
          (state.pull lexer).iteration) :=
  pull_found (sharing_iteration sharing found)

theorem pull_nobody {iteration : String}
    (absent : session.iterations.lookup iteration = none) :
    session.step (.pull iteration) = (.unknownName iteration, session) := by
  simp only [step, pull, iteration?, absent, Option.bind_none]

inductive ReaderStep (session : Session) (name : String) (lexer : Lexer) :
    Step → Answer → Session → Prop where
  | read : ReaderStep session name lexer (.read name) (.read lexer.next)
      (session.updateLexer 0 lexer.next.lexer)
  | iterate (iteration : String) : ReaderStep session name lexer (.iterate name iteration)
      (.iterating lexer) (session.putIteration iteration 0 .fresh)
  | nobody {iteration : String} (absent : session.iterations.lookup iteration = none) :
      ReaderStep session name lexer (.pull iteration) (.unknownName iteration) session
  | pull {iteration : String} {state : Iteration}
      (found : session.iterations.lookup iteration = some (0, state)) :
      ReaderStep session name lexer (.pull iteration) (.pulled (state.pull lexer))
        ((session.updateLexer 0 (state.pull lexer).lexer).putIteration iteration 0
          (state.pull lexer).iteration)

theorem reader_step (sharing : Sharing session name lexer) {step : Step}
    (shares : step.Shares name) :
    ReaderStep session name lexer step (session.step step).1 (session.step step).2 := by
  cases step with
  | read named =>
      cases shares
      rw [read_step sharing]
      exact .read
  | iterate named iteration =>
      cases shares
      rw [iterate_step sharing]
      exact .iterate iteration
  | pull iteration =>
      cases found : session.iterations.lookup iteration with
      | none =>
          rw [pull_nobody found]
          exact .nobody found
      | some entry =>
          obtain ⟨number, state⟩ := entry
          obtain rfl := (sharing.iterations iteration number state found).1
          rw [pull_step sharing found]
          exact .pull found
  | make _ _ _ | drain _ | inspect _ | setConfig _ | resetConfig | getConfig | enter _ _
  | leave _ | within _ _ _ | thread _ => cases shares

/-- What a step of a reader delivers is just what the lexer afterwards lacks. -/
theorem step_resumes {stream : Run} {delivered : List Token} {step : Step} {answer : Answer}
    {next : Session} (sharing : Sharing session name lexer)
    (resumes : lexer.Resumes stream delivered)
    (taken : ReaderStep session name lexer step answer next) :
    ∃ later, Sharing next name later ∧
      later.Resumes stream (delivered ++ answer.token?.toList) := by
  cases taken with
  | read =>
      exact ⟨lexer.next.lexer, update_sharing sharing (Lexer.next_stays_last resumes),
        Lexer.next_resumes resumes⟩
  | iterate iteration =>
      exact ⟨lexer, put_sharing sharing iteration nofun, Lexer.unmoved_resumes resumes⟩
  | nobody _ => exact ⟨lexer, sharing, Lexer.unmoved_resumes resumes⟩
  | @pull iteration state found =>
      cases closed : state.ended with
      | true =>
          -- It reads nothing, and it may be over since the lexer has met its last reading.
          have unmoved := update_sharing sharing id
          have last := (sharing.iterations iteration 0 state found).2
          rw [pull_over state lexer closed]
          exact ⟨lexer, put_sharing unmoved iteration last, Lexer.unmoved_resumes resumes⟩
      | false =>
          have reading := pull_live state lexer closed
          have ends := pull_ends state lexer
          rw [reading.outcome] at ends
          have later := update_sharing sharing (Lexer.next_stays_last resumes)
          rw [Answer.token?, reading.outcome, reading.lexer]
          refine ⟨lexer.next.lexer, put_sharing later iteration ?_, Lexer.next_resumes resumes⟩
          intro ended
          exact Lexer.next_stays_last resumes (ends ▸ ended)

theorem run_resumes {stream : Run} {delivered : List Token} {steps : List Step}
    (sharing : Sharing session name lexer) (resumes : lexer.Resumes stream delivered)
    (shares : ∀ step ∈ steps, step.Shares name) :
    ∃ later, Sharing (session.run false steps).2 name later ∧
      later.Resumes stream
        (delivered ++ (session.run false steps).1.filterMap Answer.token?) := by
  induction steps generalizing session lexer delivered with
  | nil =>
      refine ⟨lexer, sharing, ?_⟩
      rw [run, List.filterMap_nil, List.append_nil]
      exact resumes
  | cons first later induction =>
      -- The sum of what was handed out and what a drain would give is the same after each step.
      have taken := reader_step sharing (shares first List.mem_cons_self)
      obtain ⟨next, nextSharing, nextResumes⟩ := step_resumes sharing resumes taken
      obtain ⟨last, lastSharing, lastResumes⟩ := induction nextSharing nextResumes
        (fun step member => shares step (List.mem_cons_of_mem first member))
      rw [run_cons]
      refine ⟨last, lastSharing, ?_⟩
      rw [List.append_assoc] at lastResumes
      cases handed : (session.step first).1.token? with
      | none =>
          rw [handed] at lastResumes
          rw [List.filterMap_cons_none handed]
          exact lastResumes
      | some token =>
          rw [handed] at lastResumes
          rw [List.filterMap_cons_some handed]
          exact lastResumes

def IsOver (session : Session) (iteration : String) : Prop :=
  session.iterations.lookup iteration = some (0, ⟨true⟩)

theorem step_stays_over {iteration : String} {step : Step} {answer : Answer} {next : Session}
    (closed : session.IsOver iteration) (kept : ¬step.Renews iteration)
    (taken : ReaderStep session name lexer step answer next) : next.IsOver iteration := by
  cases taken with
  | read => exact closed
  | iterate other =>
      have different : iteration ≠ other := fun same => kept same.symm
      rw [IsOver, putIteration, List.lookup_cons, beq_eq_false_iff_ne.mpr different]
      exact closed
  | nobody _ => exact closed
  | @pull other state found =>
      rw [IsOver, putIteration, List.lookup_cons]
      by_cases same : iteration = other
      · subst same
        have ended : state = ⟨true⟩ := (Prod.mk.inj (Option.some.inj (found.symm.trans closed))).2
        subst ended
        rw [beq_self_eq_true]
        rfl
      · rw [beq_eq_false_iff_ne.mpr same]
        exact closed

theorem run_stays_over {stream : Run} {delivered : List Token} {iteration : String}
    {steps : List Step} (sharing : Sharing session name lexer)
    (resumes : lexer.Resumes stream delivered) (closed : session.IsOver iteration)
    (shares : ∀ step ∈ steps, step.Shares name ∧ ¬step.Renews iteration) :
    (session.run false steps).2.IsOver iteration := by
  induction steps generalizing session lexer delivered with
  | nil => exact closed
  | cons first later induction =>
      obtain ⟨firstShares, kept⟩ := shares first List.mem_cons_self
      have taken := reader_step sharing firstShares
      obtain ⟨next, nextSharing, nextResumes⟩ := step_resumes sharing resumes taken
      rw [run_cons]
      exact induction nextSharing nextResumes (step_stays_over closed kept taken)
        (fun step member => shares step (List.mem_cons_of_mem first member))

theorem lexer_updated (sharing : Sharing session name lexer) (later : Lexer) :
    (session.updateLexer 0 later).lexer? name = some (0, later) := by
  simp [lexer?, updateLexer, sharing.named, sharing.only]

/-- A pull either is one reading or stops, and it stops only behind the end of the stream. -/
theorem pull_answer {stream : Run} {delivered : List Token} {iteration : String} {number : Nat}
    {held : Lexer} {state : Iteration} (sharing : Sharing session name lexer)
    (resumes : lexer.Resumes stream delivered)
    (found : session.iteration? iteration = some (number, held, state)) :
    ∃ pull, (session.step (.pull iteration)).1 = .pulled pull ∧
      (session.step (.pull iteration)).2.lexer? name = some (0, pull.lexer) ∧
      if state.ended then pull.IsStop lexer ∧ lexer.next.outcome = stream.ending
      else pull.IsReading lexer := by
  cases named : session.iterations.lookup iteration with
  | none => simp [iteration?, named] at found
  | some entry =>
      obtain ⟨other, same⟩ := entry
      rw [sharing_iteration sharing named] at found
      cases found
      have last := (sharing.iterations iteration other state named).2
      rw [pull_step sharing named]
      refine ⟨state.pull lexer, rfl, lexer_updated sharing _, ?_⟩
      cases closed : state.ended with
      | true =>
          rw [if_pos rfl, pull_over state lexer closed]
          exact ⟨⟨rfl, rfl, rfl⟩, Lexer.resumes_ending resumes (last closed)⟩
      | false =>
          rw [if_neg Bool.false_ne_true]
          exact pull_live state lexer closed

theorem over_after_last_pull {iteration : String} {pull : Pull}
    (sharing : Sharing session name lexer)
    (answered : (session.step (.pull iteration)).1 = .pulled pull)
    (last : Iteration.isLast pull.outcome = true) :
    (session.step (.pull iteration)).2.IsOver iteration := by
  cases named : session.iterations.lookup iteration with
  | none =>
      rw [pull_nobody named] at answered
      contradiction
  | some entry =>
      obtain ⟨number, state⟩ := entry
      have ended := pull_ends state lexer
      rw [pull_step sharing named] at answered ⊢
      cases answered
      rw [last] at ended
      rw [IsOver, putIteration, List.lookup_cons_self, ← ended]

/-- What readers get who ask behind the end of the stream. -/
theorem over_answers {stream : Run} {delivered : List Token} {iteration : String}
    (sharing : Sharing session name lexer) (resumes : lexer.Resumes stream delivered)
    (closed : session.IsOver iteration) :
    ∃ stop, (session.step (.pull iteration)).1 = .pulled stop ∧ stop.IsStop lexer ∧
      (session.step (.pull iteration)).2.lexer? name = some (0, lexer) ∧
      (session.step (.read name)).1 = .read lexer.next ∧
      lexer.next.outcome = stream.ending := by
  obtain ⟨stop, answered, moved, stops⟩ :=
    pull_answer sharing resumes (sharing_iteration sharing closed)
  rw [if_pos rfl] at stops
  obtain ⟨stops, ending⟩ := stops
  rw [stops.lexer] at moved
  exact ⟨stop, answered, stops, moved, by rw [read_step sharing], ending⟩

end Steps

end Session

/-- Readers of one lexer share one stream. Whatever they have done in whatever order, the tokens
handed out so far begin the stream and a drain gives the others; a new iteration reads nothing,
and one that is over stays so while the lexer itself still answers with the end of the stream. -/
theorem readers_share_one_stream (source name : String) (file : Option String)
    (config : LexConfig) (steps : List Step) (shares : ∀ step ∈ steps, step.Shares name) :
    let stream := tokenize source file config
    let run := ((Session.fresh.withActive config).make name source file).2.run false steps
    let delivered := run.1.filterMap Answer.token?
    let session := run.2
    ∃ lexer, session.lexer? name = some (0, lexer) ∧
      delivered <+: stream.tokens ∧
      (∃ rest, (session.step (.drain name)).1 = .drained rest ∧
        delivered ++ rest.tokens = stream.tokens ∧ rest.error = stream.error) ∧
      ((session.step (.read name)).1 = .read lexer.next ∧
        (session.step (.read name)).2.lexer? name = some (0, lexer.next.lexer)) ∧
      (∀ iteration, (session.step (.iterate name iteration)).1 = .iterating lexer ∧
        (session.step (.iterate name iteration)).2.lexer? name = some (0, lexer) ∧
        (session.step (.iterate name iteration)).2.iteration? iteration =
          some (0, lexer, .fresh)) ∧
      (∀ iteration number held state,
        session.iteration? iteration = some (number, held, state) →
          ∃ pull, (session.step (.pull iteration)).1 = .pulled pull ∧
            (session.step (.pull iteration)).2.lexer? name = some (0, pull.lexer) ∧
            if state.ended then pull.IsStop lexer ∧ lexer.next.outcome = stream.ending
            else pull.IsReading lexer) ∧
      (∀ iteration pull later, (session.step (.pull iteration)).1 = .pulled pull →
        Iteration.isLast pull.outcome = true →
        (∀ step ∈ later, step.Shares name ∧ ¬step.Renews iteration) →
          let final := ((session.step (.pull iteration)).2.run false later).2
          ∃ still stop, (final.step (.pull iteration)).1 = .pulled stop ∧ stop.IsStop still ∧
            (final.step (.pull iteration)).2.lexer? name = some (0, still) ∧
            (final.step (.read name)).1 = .read still.next ∧
            still.next.outcome = stream.ending) := by
  intro stream run delivered session
  obtain ⟨lexer, sharing, resumes⟩ := Session.run_resumes
    (Session.make_sharing source name file config)
    (Lexer.fresh_resumes source file config) shares
  change session.Sharing name lexer at sharing
  change lexer.Resumes stream delivered at resumes
  refine ⟨lexer, Session.sharing_lexer sharing, ⟨_, resumes.tokens⟩, ?_, ?_, ?_, ?_, ?_⟩
  · rw [Session.drain_step sharing]
    exact ⟨lexer.drain, rfl, resumes.tokens, resumes.error⟩
  · rw [Session.read_step sharing]
    exact ⟨rfl, Session.lexer_updated sharing _⟩
  · intro iteration
    have made : (session.putIteration iteration 0 .fresh).Sharing name lexer :=
      Session.put_sharing sharing iteration nofun
    rw [Session.iterate_step sharing]
    exact ⟨rfl, Session.sharing_lexer made,
      Session.sharing_iteration made List.lookup_cons_self⟩
  · intro iteration number held state found
    exact Session.pull_answer sharing resumes found
  · intro iteration pull later answered last laterShares final
    have closed := Session.over_after_last_pull sharing answered last
    have pulls : (Step.pull iteration).Shares name := trivial
    have taken := Session.reader_step sharing pulls
    obtain ⟨next, nextSharing, nextResumes⟩ := Session.step_resumes sharing resumes taken
    have stays := Session.run_stays_over nextSharing nextResumes closed laterShares
    obtain ⟨still, finalSharing, finalResumes⟩ := Session.run_resumes nextSharing nextResumes
      (fun step member => (laterShares step member).1)
    exact ⟨still, Session.over_answers finalSharing finalResumes stays⟩

/-- Two iterations and a direct reader by turns, over a text that ends in an error. -/
theorem three_readers_take_turns :
    let steps : List Step :=
      [ .iterate "shared" "first", .pull "first", .read "shared", .iterate "shared" "second",
        .pull "second", .pull "first", .pull "second", .pull "first", .read "shared" ]
    let run := ((Session.fresh.withActive ⟨true⟩).make "shared" "x = 3 \"y" none).2.run false steps
    (∀ step ∈ steps, step.Shares "shared") ∧
      ∃ rest, (run.2.step (.drain "shared")).1 = .drained rest ∧
        run.1.filterMap Answer.token? ++ rest.tokens =
          (tokenize "x = 3 \"y" none ⟨true⟩).tokens ∧
        rest.error = (tokenize "x = 3 \"y" none ⟨true⟩).error := by
  intro steps run
  have shares : ∀ step ∈ steps, step.Shares "shared" := by simp [steps, Step.Shares]
  obtain ⟨_, _, _, drained, _⟩ :=
    readers_share_one_stream "x = 3 \"y" "shared" none ⟨true⟩ steps shares
  exact ⟨shares, drained⟩

end ExprLexer
