import ExprLexer.Proofs.Moments

/-!
The configuration as a variable with a value in each thread. A thread starts with the default, and
it reads and sets no value but its own; lexers, iterations and contexts are shared. A session
keeps one active configuration instead, which it gives back when a thread is over. Seen from the
thread that takes the steps the two are the same.
-/

namespace ExprLexer

/-- What all threads share, and the values of the threads in the order in which they were started.
The configuration that is active in the shared session is that of no thread. -/
structure ThreadedSession where
  shared : Session
  values : List LexConfig

namespace ThreadedSession

def value (state : ThreadedSession) (thread : Nat) : LexConfig :=
  state.values.getD thread .default

def setValue (state : ThreadedSession) (thread : Nat) (config : LexConfig) : ThreadedSession :=
  { state with values := state.values.set thread config }

def start (state : ThreadedSession) : ThreadedSession :=
  { state with values := state.values ++ [.default] }

def seenFrom (state : ThreadedSession) (thread : Nat) : Session :=
  state.shared.withActive (state.value thread)

def plainIn (thread : Nat) (state : ThreadedSession) (step : Step) : Answer × ThreadedSession :=
  let (answer, next) := (state.seenFrom thread).step step
  (answer, { state with shared := next }.setValue thread next.active)

mutual

/-- One step, taken in a thread. A block gives the thread back the value that it had before; when
another thread is over, nothing is given back to this one. -/
def stepIn (thread : Nat) (state : ThreadedSession) : Step → Answer × ThreadedSession
  | .within config stopAtError steps =>
      let (answers, last) := runIn thread stopAtError (state.setValue thread config) steps
      let after := last.setValue thread (state.value thread)
      (.nested answers (after.value thread), after)
  | .thread steps =>
      let (answers, last) := runIn state.values.length false state.start steps
      (.nested answers (last.value thread), last)
  | step => plainIn thread state step

def runIn (thread : Nat) (stopAtError : Bool) (state : ThreadedSession) :
    List Step → List Answer × ThreadedSession
  | [] => ([], state)
  | first :: later =>
      let (answer, next) := stepIn thread state first
      if stopAtError && answer.isError then ([answer], next)
      else
        let (answers, last) := runIn thread stopAtError next later
        (answer :: answers, last)

end

section Values

variable {state : ThreadedSession} {thread other : Nat} {config : LexConfig}

theorem value_set (started : thread < state.values.length) :
    (state.setValue thread config).value thread = config := by
  simp [value, setValue, started]

theorem seen_from_set (started : thread < state.values.length) :
    (state.setValue thread config).seenFrom thread = state.shared.withActive config := by
  rw [seenFrom, value_set started]
  rfl

theorem value_set_other (different : other ≠ thread) :
    (state.setValue thread config).value other = state.value other := by
  simp [value, setValue, List.getD_eq_getElem?_getD, List.getElem?_set_ne different.symm]

theorem value_start : state.start.value state.values.length = .default := by
  simp [value, start]

theorem value_start_other (started : other < state.values.length) :
    state.start.value other = state.value other := by
  simp [value, start, List.getD_eq_getElem?_getD, List.getElem?_append_left started]

end Values

/-- Nothing but the value of one thread has changed among the values of the threads that had been
started. -/
structure KeepsOthers (thread : Nat) (before after : ThreadedSession) : Prop where
  started : before.values.length ≤ after.values.length
  others : ∀ other, other < before.values.length → other ≠ thread →
    after.value other = before.value other

section Kept

variable {before between after : ThreadedSession} {thread : Nat}

theorem keeps_refl (thread : Nat) (state : ThreadedSession) : KeepsOthers thread state state :=
  ⟨Nat.le_refl _, fun _ _ _ => rfl⟩

theorem keeps_trans (first : KeepsOthers thread before between)
    (second : KeepsOthers thread between after) : KeepsOthers thread before after := by
  refine ⟨Nat.le_trans first.started second.started, ?_⟩
  intro other started different
  rw [second.others other (Nat.lt_of_lt_of_le started first.started) different]
  exact first.others other started different

theorem keeps_set_value (thread : Nat) (state : ThreadedSession) (config : LexConfig) :
    KeepsOthers thread state (state.setValue thread config) := by
  refine ⟨?_, fun other _ different => value_set_other different⟩
  exact Nat.le_of_eq List.length_set.symm

/-- A new thread is none of those that had been started, so it changes no value of theirs. -/
theorem value_behind_thread {state : ThreadedSession} {other : Nat}
    (kept : KeepsOthers state.values.length state.start after)
    (started : other < state.values.length) : after.value other = state.value other := by
  have grown : other < state.start.values.length := by
    rw [start, List.length_append]
    exact Nat.lt_add_right 1 started
  rw [kept.others other grown (Nat.ne_of_lt started)]
  exact value_start_other started

theorem keeps_of_thread {state : ThreadedSession}
    (kept : KeepsOthers state.values.length state.start after) :
    KeepsOthers thread state after := by
  refine ⟨?_, fun other started _ => value_behind_thread kept started⟩
  have grown := kept.started
  rw [start, List.length_append] at grown
  exact Nat.le_of_succ_le grown

mutual

theorem step_keeps_others (thread : Nat) (state : ThreadedSession) :
    (step : Step) → KeepsOthers thread state (stepIn thread state step).2
  | .within config stopAtError steps =>
      keeps_trans
        (keeps_trans (keeps_set_value thread state config)
          (run_keeps_others thread stopAtError (state.setValue thread config) steps))
        (keeps_set_value thread _ (state.value thread))
  | .thread steps =>
      keeps_of_thread (run_keeps_others state.values.length false state.start steps)
  | .make _ _ _ | .read _ | .drain _ | .inspect _ | .iterate _ _ | .pull _ | .setConfig _
  | .resetConfig | .getConfig | .enter _ _ | .leave _ =>
      ⟨(keeps_set_value thread _ _).started, (keeps_set_value thread _ _).others⟩

theorem run_keeps_others (thread : Nat) (stopAtError : Bool) (state : ThreadedSession) :
    (steps : List Step) → KeepsOthers thread state (runIn thread stopAtError state steps).2
  | [] => keeps_refl thread state
  | first :: later => by
      have left := step_keeps_others thread state first
      have right := run_keeps_others thread stopAtError (stepIn thread state first).2 later
      simp only [runIn]
      split
      · exact left
      · exact keeps_trans left right

end

end Kept

/-- What a thread has done is what a session would have done that it alone sees. -/
def AsSession {Result : Type} (thread : Nat) (done : Result × ThreadedSession)
    (seen : Result × Session) : Prop :=
  done.1 = seen.1 ∧ done.2.seenFrom thread = seen.2

section Seen

theorem plain_seen (thread : Nat) (state : ThreadedSession)
    (started : thread < state.values.length) (step : Step) :
    AsSession thread (plainIn thread state step) ((state.seenFrom thread).step step) := by
  let next := ((state.seenFrom thread).step step).2
  have there : thread < (ThreadedSession.mk next state.values).values.length := started
  exact ⟨rfl, seen_from_set there⟩

mutual

theorem step_seen (thread : Nat) (state : ThreadedSession)
    (started : thread < state.values.length) :
    (step : Step) →
      AsSession thread (stepIn thread state step) ((state.seenFrom thread).step step)
  | .within config stopAtError steps => by
      have opened : (state.setValue thread config).seenFrom thread =
          (state.seenFrom thread).withActive config := seen_from_set started
      have there : thread < (state.setValue thread config).values.length := by
        rw [setValue, List.length_set]
        exact started
      have inside := run_seen thread (state.setValue thread config) there stopAtError steps
      have still := Nat.lt_of_lt_of_le there
        (run_keeps_others thread stopAtError (state.setValue thread config) steps).started
      rw [opened] at inside
      constructor
      · simp only [stepIn, value_set still, inside.1]
        rfl
      · simp only [stepIn, seen_from_set still, Session.step, Session.close, ← inside.2]
        rfl
  | .thread steps => by
      have opened : state.start.seenFrom state.values.length =
          (state.seenFrom thread).withActive .default := by
        rw [seenFrom, value_start]
        rfl
      have there : state.values.length < state.start.values.length := by
        rw [start, List.length_append]
        exact Nat.lt_succ_self _
      have inside := run_seen state.values.length state.start there false steps
      have back := value_behind_thread
        (run_keeps_others state.values.length false state.start steps) started
      rw [opened] at inside
      constructor
      · simp only [stepIn, back, inside.1]
        rfl
      · simp only [stepIn, Session.step, Session.close, ← inside.2]
        rw [seenFrom, back]
        rfl
  | .make _ _ _ | .read _ | .drain _ | .inspect _ | .iterate _ _ | .pull _ | .setConfig _
  | .resetConfig | .getConfig | .enter _ _ | .leave _ => plain_seen thread state started _

theorem run_seen (thread : Nat) (state : ThreadedSession)
    (started : thread < state.values.length) (stopAtError : Bool) :
    (steps : List Step) →
      AsSession thread (runIn thread stopAtError state steps)
        ((state.seenFrom thread).run stopAtError steps)
  | [] => ⟨rfl, rfl⟩
  | first :: later => by
      have left := step_seen thread state started first
      have there := Nat.lt_of_lt_of_le started (step_keeps_others thread state first).started
      have right := run_seen thread (stepIn thread state first).2 there stopAtError later
      rw [left.2] at right
      simp only [runIn, Session.run, left.1]
      split
      · exact ⟨rfl, left.2⟩
      · exact ⟨congrArg _ right.1, right.2⟩

end

end Seen

end ThreadedSession

end ExprLexer
