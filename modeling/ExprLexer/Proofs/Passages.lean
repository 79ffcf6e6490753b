import ExprLexer.Proofs.ConfigStack
import ExprLexer.Proofs.Moments

/-!
What comes to pass with the configuration of a thread, in the order in which it happens. Blocks
are opened and closed around what happens inside them, and another thread is over at once. The
sessions from one passage to the next are those of the run, and no passage touches a context but
the ones that it names.
-/

namespace ExprLexer

def Step.configEvent : Step → ConfigEvent
  | setConfig config => .set config
  | resetConfig => .set .default
  | enter name config => .enter name config
  | leave name => .leave name
  | _ => .unconcerned

def Step.context? : Step → Option String
  | enter name _ => some name
  | leave name => some name
  | _ => none

structure Passage where
  event : ConfigEvent
  after : Session

namespace Session

def touchedContexts (session : Session) (steps : List Step) : List String :=
  (session.momentsOf (.thread steps)).filterMap fun moment => moment.step.context?

mutual

/-- What happens to the configuration in a step: a block is opened, its steps are taken and it is
closed, while a thread is over at once. -/
def passagesOf (session : Session) : Step → List Passage
  | .within config stopAtError steps =>
      ⟨.openBlock config, session.withActive config⟩ ::
        (passages stopAtError (session.withActive config) steps ++
          [⟨.closeBlock, (session.step (.within config stopAtError steps)).2⟩])
  | .thread steps =>
      [⟨.elsewhere (session.touchedContexts steps), (session.step (.thread steps)).2⟩]
  | step => [⟨step.configEvent, (session.step step).2⟩]

def passages (stopAtError : Bool) (session : Session) : List Step → List Passage
  | [] => []
  | first :: later =>
      let (answer, next) := session.step first
      session.passagesOf first ++
        if stopAtError && answer.isError then [] else passages stopAtError next later

end

def afterPassages (session : Session) (passages : List Passage) : Session :=
  (passages.getLast?.map Passage.after).getD session

end Session

/-- One passage from a session to the next. The configurations to which the open blocks go back
are pending, the innermost first. -/
inductive Passes (session : Session) (pending : List LexConfig) :
    Passage → List LexConfig → Prop where
  | plain (step : Step) (plain : step.isPlain = true) :
      Passes session pending ⟨step.configEvent, (session.step step).2⟩ pending
  | openBlock (config : LexConfig) :
      Passes session pending ⟨.openBlock config, session.withActive config⟩
        (session.active :: pending)
  | closeBlock {before : LexConfig} {outer : List LexConfig} (opened : pending = before :: outer) :
      Passes session pending ⟨.closeBlock, session.withActive before⟩ outer
  | elsewhere (steps : List Step) :
      Passes session pending
        ⟨.elsewhere (session.touchedContexts steps), (session.step (.thread steps)).2⟩ pending

inductive Path : Session → List LexConfig → List Passage → Session → List LexConfig → Prop where
  | nothing (session : Session) (pending : List LexConfig) :
      Path session pending [] session pending
  | passage {session last : Session} {pending between outer : List LexConfig} {passage : Passage}
      {later : List Passage} (first : Passes session pending passage between)
      (rest : Path passage.after between later last outer) :
      Path session pending (passage :: later) last outer

section Paths

variable {session between last : Session} {pending inner outer : List LexConfig}
  {earlier later passages : List Passage}

theorem path_on (left : Path session pending earlier between inner)
    (right : Path between inner later last outer) :
    Path session pending (earlier ++ later) last outer := by
  induction left with
  | nothing session pending => exact right
  | passage first _ induction => exact .passage first (induction right)

theorem path_split (path : Path session pending (earlier ++ later) last outer) :
    ∃ between inner,
      Path session pending earlier between inner ∧ Path between inner later last outer := by
  induction earlier generalizing session pending with
  | nil => exact ⟨session, pending, .nothing session pending, path⟩
  | cons passage earlier induction =>
      cases path with
      | passage first rest =>
          obtain ⟨between, inner, left, right⟩ := induction rest
          exact ⟨between, inner, .passage first left, right⟩

theorem path_end (path : Path session pending passages last outer) :
    session.afterPassages passages = last := by
  induction path with
  | nothing session pending => rfl
  | @passage session last _ _ _ passage later _ _ induction =>
      rw [← induction, Session.afterPassages, Session.afterPassages, List.getLast?_cons]
      cases later.getLast? with
      | none => rfl
      | some final => rfl

end Paths

namespace Session

theorem plain_path (session : Session) (pending : List LexConfig) {step : Step}
    (plain : step.isPlain = true) :
    Path session pending (session.passagesOf step) (session.step step).2 pending := by
  have alone : session.passagesOf step = [⟨step.configEvent, (session.step step).2⟩] := by
    cases step with
    | within _ _ _ | thread _ => contradiction
    | make _ _ _ | read _ | drain _ | inspect _ | iterate _ _ | pull _ | setConfig _
    | resetConfig | getConfig | enter _ _ | leave _ => rfl
  rw [alone]
  exact .passage (.plain step plain) (.nothing _ _)

mutual

theorem step_path (session : Session) (pending : List LexConfig) :
    (step : Step) → Path session pending (session.passagesOf step) (session.step step).2 pending
  | .within config stopAtError steps => by
      have inside := run_path stopAtError (session.withActive config) (session.active :: pending)
        steps
      exact .passage (.openBlock config)
        (path_on inside (.passage (.closeBlock rfl) (.nothing _ _)))
  | .thread steps => .passage (.elsewhere steps) (.nothing _ _)
  | .make _ _ _ | .read _ | .drain _ | .inspect _ | .iterate _ _ | .pull _ | .setConfig _
  | .resetConfig | .getConfig | .enter _ _ | .leave _ => plain_path session pending rfl

/-- The passages of a run lead to its end, with no other blocks open than before. -/
theorem run_path (stopAtError : Bool) (session : Session) (pending : List LexConfig) :
    (steps : List Step) →
      Path session pending (session.passages stopAtError steps)
        (session.run stopAtError steps).2 pending
  | [] => .nothing session pending
  | first :: later => by
      have left := step_path session pending first
      have right := run_path stopAtError (session.step first).2 pending later
      simp only [passages, run]
      split
      · rw [List.append_nil]
        exact left
      · exact path_on left right

end

theorem unconcerned_step (session : Session) {step : Step} (plain : step.isPlain = true)
    (unconcerned : step.configEvent = .unconcerned) :
    (session.step step).2.active = session.active ∧
      (session.step step).2.contexts = session.contexts := by
  cases step with
  | within _ _ _ | thread _ => contradiction
  | setConfig _ | resetConfig | enter _ _ | leave _ => contradiction
  | make _ _ _ | getConfig => exact ⟨rfl, rfl⟩
  | read name | drain name | inspect name | iterate name _ =>
      simp only [step, read, drain, inspect, iterate]
      split <;> exact ⟨rfl, rfl⟩
  | pull name =>
      simp only [step, pull]
      split <;> exact ⟨rfl, rfl⟩

theorem lookup_other {Entry : Type} {entries : List (String × Entry)} {name other : String}
    (different : other ≠ name) (entry : Entry) :
    ((name, entry) :: entries).lookup other = entries.lookup other := by
  rw [List.lookup_cons, beq_eq_false_iff_ne.mpr different]

theorem leave_found {session : Session} {name : String} {saved : LexConfig}
    (found : session.contexts.lookup name = some ⟨saved, false⟩) :
    (session.step (.leave name)).2 =
      (session.putContext name ⟨saved, true⟩).withActive saved := by
  simp [step, leaveNamed, found, answerConfig, Session.leave]

theorem untouched_by_step (session : Session) {step : Step} (plain : step.isPlain = true)
    {name : String} (untouched : step.context? ≠ some name) :
    (session.step step).2.contexts.lookup name = session.contexts.lookup name := by
  cases step with
  | within _ _ _ | thread _ => contradiction
  | setConfig _ | resetConfig => rfl
  | enter entered _ =>
      have different : name ≠ entered := fun same => untouched (congrArg some same.symm)
      exact lookup_other different _
  | leave named =>
      have different : name ≠ named := fun same => untouched (congrArg some same.symm)
      simp only [step, leaveNamed]
      split
      · rfl
      · simp only [answerConfig, Session.leave]
        split
        · rfl
        · exact lookup_other different _
  | make _ _ _ | read _ | drain _ | inspect _ | iterate _ _ | pull _ | getConfig =>
      rw [(unconcerned_step session plain rfl).2]

theorem untouched_along {session last : Session} {moments : List Moment} {name : String}
    (leads : Leads session moments last)
    (untouched : name ∉ moments.filterMap fun moment => moment.step.context?) :
    last.contexts.lookup name = session.contexts.lookup name := by
  induction leads with
  | nothing session config => rfl
  | @moment session _ step later config plain _ induction =>
      rw [List.mem_filterMap] at untouched
      have here : step.context? ≠ some name := fun touches =>
        untouched ⟨_, List.mem_cons_self, touches⟩
      have behind : name ∉ later.filterMap fun moment => moment.step.context? := by
        rw [List.mem_filterMap]
        rintro ⟨moment, member, touches⟩
        exact untouched ⟨moment, List.mem_cons_of_mem _ member, touches⟩
      rw [induction behind]
      exact untouched_by_step (session.withActive config) plain here

theorem untouched_elsewhere {session : Session} {steps : List Step} {name : String}
    (untouched : name ∉ session.touchedContexts steps) :
    (session.step (.thread steps)).2.contexts.lookup name = session.contexts.lookup name :=
  untouched_along (step_leads session (.thread steps)) untouched

end Session

end ExprLexer
