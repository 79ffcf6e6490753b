import ExprLexer.Session.Step

/-!
What a session comes to, step by step. A step that names a lexer or an iteration finds it or does
nothing. Blocks and threads only say under which configuration other steps are taken and where
they stop, so a run is a row of plain steps, each taken in some state of the session. The answers
of the run are the answers of these steps in turn, and from one to the next nothing changes but
the active configuration.
-/

namespace ExprLexer

theorem lookup_put {Entry : Type} {entries : List (String × Entry)} {name other : String}
    {entry found : Entry} (here : ((name, entry) :: entries).lookup other = some found) :
    (other = name ∧ found = entry) ∨ (other ≠ name ∧ entries.lookup other = some found) := by
  rw [List.lookup_cons] at here
  by_cases same : other = name
  · rw [beq_iff_eq.mpr same] at here
    exact Or.inl ⟨same, (Option.some.inj here).symm⟩
  · rw [beq_eq_false_iff_ne.mpr same] at here
    exact Or.inr ⟨same, here⟩

namespace Session

section Found

variable {session : Session} {name : String} {number : Nat} {lexer : Lexer}

theorem lexer_found_iff :
    session.lexer? name = some (number, lexer) ↔
      session.lexerNames.lookup name = some number ∧ session.lexers[number]? = some lexer := by
  constructor
  · intro found
    obtain ⟨entry, named, held⟩ := Option.bind_eq_some_iff.mp found
    obtain ⟨other, there, same⟩ := Option.map_eq_some_iff.mp held
    cases same
    exact ⟨named, there⟩
  · rintro ⟨named, held⟩
    rw [lexer?, named, Option.bind_some, held, Option.map_some]

theorem iteration_found_iff {iteration : Iteration} :
    session.iteration? name = some (number, lexer, iteration) ↔
      session.iterations.lookup name = some (number, iteration) ∧
        session.lexers[number]? = some lexer := by
  constructor
  · intro found
    obtain ⟨⟨entry, state⟩, named, held⟩ := Option.bind_eq_some_iff.mp found
    obtain ⟨other, there, same⟩ := Option.map_eq_some_iff.mp held
    cases same
    exact ⟨named, there⟩
  · rintro ⟨named, held⟩
    rw [iteration?, named, Option.bind_some, held, Option.map_some]

theorem read_found (found : session.lexer? name = some (number, lexer)) :
    session.step (.read name) =
      (.read lexer.next, session.updateLexer number lexer.next.lexer) := by
  simp only [step, read, found]

theorem drain_found (found : session.lexer? name = some (number, lexer)) :
    session.step (.drain name) =
      (.drained lexer.drain, session.updateLexer number lexer.drain.lexer) := by
  simp only [step, drain, found]

theorem inspect_found (found : session.lexer? name = some (number, lexer)) :
    session.step (.inspect name) = (.inspected lexer, session) := by
  simp only [step, inspect, found]

theorem iterate_found (found : session.lexer? name = some (number, lexer))
    (iteration : String) :
    session.step (.iterate name iteration) =
      (.iterating lexer, session.putIteration iteration number .fresh) := by
  simp only [step, iterate, found]

theorem pull_found {iteration : Iteration}
    (found : session.iteration? name = some (number, lexer, iteration)) :
    session.step (.pull name) =
      (.pulled (iteration.pull lexer),
        (session.updateLexer number (iteration.pull lexer).lexer).putIteration name number
          (iteration.pull lexer).iteration) := by
  simp only [step, pull, found]

end Found

theorem run_cons (session : Session) (first : Step) (later : List Step) :
    session.run false (first :: later) =
      ((session.step first).1 :: ((session.step first).2.run false later).1,
        ((session.step first).2.run false later).2) := by
  simp only [run, Bool.false_and, Bool.false_eq_true, if_false]

end Session

def Step.isPlain : Step → Bool
  | within _ _ _ => false
  | thread _ => false
  | _ => true

structure Moment where
  session : Session
  step : Step

namespace Moment

def answer (moment : Moment) : Answer := (moment.session.step moment.step).1

def after (moment : Moment) : Session := (moment.session.step moment.step).2

/-- The number of the lexer that a step acts on, itself or through an iteration. -/
def lexer? (moment : Moment) : Option Nat :=
  match moment.step with
  | .read name | .drain name | .inspect name | .iterate name _ =>
      (moment.session.lexer? name).map Prod.fst
  | .pull name => (moment.session.iteration? name).map Prod.fst
  | _ => none

def actsOn (number : Nat) (moment : Moment) : Bool := moment.lexer? == some number

end Moment

namespace Session

mutual

def momentsOf (session : Session) : Step → List Moment
  | .within config stopAtError steps => moments stopAtError (session.withActive config) steps
  | .thread steps => moments false (session.withActive .default) steps
  | step => [⟨session, step⟩]

def moments (stopAtError : Bool) (session : Session) : List Step → List Moment
  | [] => []
  | first :: later =>
      let (answer, next) := session.step first
      session.momentsOf first ++
        if stopAtError && answer.isError then [] else moments stopAtError next later

end

end Session

namespace Answer

mutual

def plain : Answer → List Answer
  | nested inner _ => plainAll inner
  | answer => [answer]

def plainAll : List Answer → List Answer
  | [] => []
  | first :: later => first.plain ++ plainAll later

end

end Answer

/-- Plain steps that lead from one state of a session to another, if before each of them and
after the last a configuration is made active. -/
inductive Leads : Session → List Moment → Session → Prop where
  | nothing (session : Session) (config : LexConfig) : Leads session [] (session.withActive config)
  | moment {session last : Session} {step : Step} {later : List Moment} (config : LexConfig)
      (plain : step.isPlain = true)
      (rest : Leads (Moment.mk (session.withActive config) step).after later last) :
      Leads session (⟨session.withActive config, step⟩ :: later) last

/-- All that a plain step can answer and do, with the number of the lexer that it acts on. A step
that acts on none changes at most the active configuration and the contexts, or adds a lexer. -/
inductive PlainChange (session : Session) : Step → Option Nat → Answer → Session → Prop where
  | make (name source : String) (file : Option String) :
      PlainChange session (.make name source file) none
        (.made (.ofSource source file session.active))
        (session.addLexer name (.ofSource source file session.active))
  | read {name : String} {number : Nat} {lexer : Lexer}
      (found : session.lexer? name = some (number, lexer)) :
      PlainChange session (.read name) (some number) (.read lexer.next)
        (session.updateLexer number lexer.next.lexer)
  | drain {name : String} {number : Nat} {lexer : Lexer}
      (found : session.lexer? name = some (number, lexer)) :
      PlainChange session (.drain name) (some number) (.drained lexer.drain)
        (session.updateLexer number lexer.drain.lexer)
  | inspect {name : String} {number : Nat} {lexer : Lexer}
      (found : session.lexer? name = some (number, lexer)) :
      PlainChange session (.inspect name) (some number) (.inspected lexer) session
  | iterate {name : String} {number : Nat} {lexer : Lexer} (iteration : String)
      (found : session.lexer? name = some (number, lexer)) :
      PlainChange session (.iterate name iteration) (some number) (.iterating lexer)
        (session.putIteration iteration number .fresh)
  | pull {name : String} {number : Nat} {lexer : Lexer} {iteration : Iteration}
      (found : session.iteration? name = some (number, lexer, iteration)) :
      PlainChange session (.pull name) (some number) (.pulled (iteration.pull lexer))
        ((session.updateLexer number (iteration.pull lexer).lexer).putIteration name number
          (iteration.pull lexer).iteration)
  | elsewhere (step : Step) (answer : Answer) (config : LexConfig)
      (contexts : List (String × ConfigContext)) :
      PlainChange session step none answer { session with active := config, contexts := contexts }

namespace Session

theorem nobody_found {session : Session} {name : String} (absent : session.lexer? name = none)
    (iteration : String) :
    session.step (.read name) = (.unknownName name, session) ∧
      session.step (.drain name) = (.unknownName name, session) ∧
      session.step (.inspect name) = (.unknownName name, session) ∧
      session.step (.iterate name iteration) = (.unknownName name, session) := by
  simp only [step, read, drain, inspect, iterate, absent, and_self]

theorem stays_elsewhere {session : Session} {step : Step} {answer : Answer}
    (unchanged : session.step step = (answer, session)) :
    PlainChange session step none (session.step step).1 (session.step step).2 := by
  rw [unchanged]
  exact .elsewhere step answer session.active session.contexts

theorem plain_change (session : Session) {step : Step} (plain : step.isPlain = true) :
    PlainChange session step (Moment.mk session step).lexer? (session.step step).1
      (session.step step).2 := by
  cases step with
  | within _ _ _ | thread _ => contradiction
  | make name source file => exact .make name source file
  | read name =>
      simp only [Moment.lexer?]
      cases found : session.lexer? name with
      | none => exact stays_elsewhere (nobody_found found name).1
      | some entry =>
          rw [read_found found]
          exact .read found
  | drain name =>
      simp only [Moment.lexer?]
      cases found : session.lexer? name with
      | none => exact stays_elsewhere (nobody_found found name).2.1
      | some entry =>
          rw [drain_found found]
          exact .drain found
  | inspect name =>
      simp only [Moment.lexer?]
      cases found : session.lexer? name with
      | none => exact stays_elsewhere (nobody_found found name).2.2.1
      | some entry =>
          rw [inspect_found found]
          exact .inspect found
  | iterate name iteration =>
      simp only [Moment.lexer?]
      cases found : session.lexer? name with
      | none => exact stays_elsewhere (nobody_found found iteration).2.2.2
      | some entry =>
          rw [iterate_found found]
          exact .iterate iteration found
  | pull name =>
      simp only [Moment.lexer?]
      cases found : session.iteration? name with
      | none =>
          have unchanged : session.step (.pull name) = (.unknownName name, session) := by
            simp only [step, pull, found]
          exact stays_elsewhere unchanged
      | some entry =>
          rw [pull_found found]
          exact .pull found
  | setConfig config => exact .elsewhere _ _ config session.contexts
  | resetConfig => exact .elsewhere _ _ .default session.contexts
  | getConfig => exact stays_elsewhere rfl
  | enter name config => exact .elsewhere _ _ config (session.enter name config).contexts
  | leave name =>
      simp only [step, leaveNamed, Moment.lexer?]
      cases found : session.contexts.lookup name with
      | none => exact .elsewhere _ _ session.active session.contexts
      | some context =>
          simp only [answerConfig, Session.leave]
          split
          · exact .elsewhere _ _ session.active session.contexts
          · exact .elsewhere _ _ context.saved ((name, { context with left := true }) :: _)

theorem leads_under {session last : Session} {moments : List Moment} {config : LexConfig}
    (leads : Leads (session.withActive config) moments last) : Leads session moments last := by
  cases leads with
  | nothing _ other => exact .nothing session other
  | moment other plain rest => exact .moment other plain rest

theorem leads_on {first between last : Session} {earlier later : List Moment}
    (left : Leads first earlier between) (right : Leads between later last) :
    Leads first (earlier ++ later) last := by
  induction left with
  | nothing session config => exact leads_under right
  | moment config plain _ induction => exact .moment config plain (induction right)

/-- Blocks and threads give back the configuration that was active before. -/
theorem leads_back {first last : Session} {moments : List Moment} (config : LexConfig)
    (leads : Leads first moments last) : Leads first moments (last.withActive config) := by
  have further := leads_on leads (.nothing last config)
  rw [List.append_nil] at further
  exact further

theorem plain_leads (session : Session) {step : Step} (plain : step.isPlain = true) :
    Leads session (session.momentsOf step) (session.step step).2 := by
  have alone : session.momentsOf step = [⟨session, step⟩] := by
    cases step with
    | within _ _ _ | thread _ => contradiction
    | make _ _ _ | read _ | drain _ | inspect _ | iterate _ _ | pull _ | setConfig _
    | resetConfig | getConfig | enter _ _ | leave _ => rfl
  rw [alone]
  exact .moment session.active plain (.nothing _ _)

mutual

theorem step_leads (session : Session) :
    (step : Step) → Leads session (session.momentsOf step) (session.step step).2
  | .within config stopAtError steps =>
      leads_back session.active
        (leads_under (run_leads stopAtError (session.withActive config) steps))
  | .thread steps =>
      leads_back session.active (leads_under (run_leads false (session.withActive .default) steps))
  | .make _ _ _ | .read _ | .drain _ | .inspect _ | .iterate _ _ | .pull _ | .setConfig _
  | .resetConfig | .getConfig | .enter _ _ | .leave _ => plain_leads session rfl

theorem run_leads (stopAtError : Bool) (session : Session) :
    (steps : List Step) →
      Leads session (session.moments stopAtError steps) (session.run stopAtError steps).2
  | [] => .nothing session session.active
  | first :: later => by
      have left := step_leads session first
      have right := run_leads stopAtError (session.step first).2 later
      simp only [moments, run]
      split
      · rw [List.append_nil]
        exact left
      · exact leads_on left right

end

theorem plain_answer (session : Session) {step : Step} (plain : step.isPlain = true) :
    (session.step step).1.plain = [(session.step step).1] := by
  cases step with
  | within _ _ _ | thread _ => contradiction
  | make _ _ _ | setConfig _ | resetConfig | getConfig | enter _ _ => rfl
  | read name | drain name | inspect name | iterate name _ =>
      simp only [step, read, drain, inspect, iterate]
      split <;> rfl
  | pull name =>
      simp only [step, pull]
      split <;> rfl
  | leave name =>
      simp only [step, leaveNamed]
      split <;> rfl

mutual

theorem step_answers (session : Session) :
    (step : Step) →
      (session.step step).1.plain = (session.momentsOf step).map Moment.answer
  | .within config stopAtError steps => run_answers stopAtError (session.withActive config) steps
  | .thread steps => run_answers false (session.withActive .default) steps
  | .make _ _ _ | .read _ | .drain _ | .inspect _ | .iterate _ _ | .pull _ | .setConfig _
  | .resetConfig | .getConfig | .enter _ _ | .leave _ => plain_answer session rfl

/-- The answers of a run, blocks and threads opened, are those of the plain steps taken. -/
theorem run_answers (stopAtError : Bool) (session : Session) :
    (steps : List Step) →
      Answer.plainAll (session.run stopAtError steps).1 =
        (session.moments stopAtError steps).map Moment.answer
  | [] => rfl
  | first :: later => by
      have left := step_answers session first
      have right := run_answers stopAtError (session.step first).2 later
      simp only [moments, run]
      split
      · rw [Answer.plainAll, Answer.plainAll, left, List.map_append]
        rfl
      · rw [Answer.plainAll, left, right, List.map_append]

end

end Session

end ExprLexer
