import ExprLexer.Proofs.Passages
import ExprLexer.Proofs.ThreadValues

/-!
Threads are isolated in both directions. What a thread does to its configuration is not seen in
the thread that started it, and no configuration of that thread is seen in the new one. There is
one way in: a context that was entered outside remembers a configuration from outside, and who
leaves it takes that configuration over.
-/

namespace ExprLexer

/-- Which of the names that mean contexts entered outside still do so after a plain step, or
nothing if the step leaves such a context. A context that is entered takes its name over. -/
def Step.outsideAfter? (outside : List String) : Step → Option (List String)
  | enter name _ => some (outside.filter fun other => other != name)
  | leave name => if name ∈ outside then none else some outside
  | _ => some outside

def Step.outsideAlong? (outside : List String) (steps : List Step) : Option (List String) :=
  steps.foldlM Step.outsideAfter? outside

def Session.openContexts (session : Session) : List String :=
  (session.contexts.map Prod.fst).filter fun name =>
    (session.contexts.lookup name).any fun context => !context.left

/-- Two sessions differ in nothing but what contexts of certain names remember. -/
structure Session.Alike (outside : List String) (session other : Session) : Prop where
  same : other = { session with contexts := other.contexts }
  contexts : ∀ name, name ∉ outside →
    other.contexts.lookup name = session.contexts.lookup name

section Alike

variable {session other : Session} {outside after : List String} {step : Step}

theorem alike_under (alike : session.Alike outside other) (config : LexConfig) :
    (session.withActive config).Alike outside (other.withActive config) := by
  obtain ⟨same, contexts⟩ := alike
  generalize other.contexts = held at same contexts
  subst same
  exact ⟨rfl, contexts⟩

theorem alike_active (alike : session.Alike outside other) : other.active = session.active := by
  rw [alike.same]

theorem alike_lexers (alike : session.Alike outside other) : other.lexers = session.lexers := by
  rw [alike.same]

theorem put_alike (alike : session.Alike outside other) (name : String) (context : ConfigContext) :
    (session.putContext name context).Alike (outside.filter fun other => other != name)
      (other.putContext name context) := by
  obtain ⟨same, contexts⟩ := alike
  generalize other.contexts = held at same contexts
  subst same
  refine ⟨rfl, ?_⟩
  intro called free
  simp only [Session.putContext]
  by_cases named : called = name
  · rw [named, List.lookup_cons_self, List.lookup_cons_self]
  · rw [Session.lookup_other named, Session.lookup_other named]
    apply contexts
    intro member
    exact free (List.mem_filter.mpr ⟨member, bne_iff_ne.mpr named⟩)

theorem contexts_unseen (session : Session) (contexts : List (String × ConfigContext))
    (plain : step.isPlain = true) (nameless : step.context? = none) :
    ({ session with contexts := contexts } : Session).step step =
      ((session.step step).1, { (session.step step).2 with contexts := contexts }) := by
  cases step with
  | within _ _ _ | thread _ => contradiction
  | enter _ _ | leave _ => contradiction
  | make _ _ _ | setConfig _ | resetConfig | getConfig => rfl
  | read name | drain name | inspect name | iterate name _ =>
      have found : ({ session with contexts := contexts } : Session).lexer? name =
          session.lexer? name := rfl
      simp only [Session.step, Session.read, Session.drain, Session.inspect, Session.iterate, found]
      split <;> rfl
  | pull name =>
      have found : ({ session with contexts := contexts } : Session).iteration? name =
          session.iteration? name := rfl
      simp only [Session.step, Session.pull, found]
      split <;> rfl

theorem enter_alike (alike : session.Alike outside other) (name : String) (config : LexConfig) :
    (session.enter name config).Alike (outside.filter fun other => other != name)
      (other.enter name config) := by
  rw [Session.enter, Session.enter, alike_active alike]
  exact alike_under (put_alike alike name ⟨session.active, false⟩) config

theorem leave_alike (alike : session.Alike outside other) {name : String} (own : name ∉ outside) :
    (other.step (.leave name)).1 = (session.step (.leave name)).1 ∧
      (session.step (.leave name)).2.Alike outside (other.step (.leave name)).2 := by
  simp only [Session.step, Session.leaveNamed, alike.contexts name own]
  cases session.contexts.lookup name with
  | none => exact ⟨rfl, alike⟩
  | some context =>
      simp only [Session.leave, Session.answerConfig]
      split
      · exact ⟨congrArg _ (alike_active alike), alike⟩
      · have free : (outside.filter fun other => other != name) = outside := by
          apply List.filter_eq_self.mpr
          intro called member
          rw [bne_iff_ne]
          rintro rfl
          exact own member
        have put := put_alike alike name { context with left := true }
        rw [free] at put
        exact ⟨rfl, alike_under put context.saved⟩

/-- A plain step that leaves no context from outside is answered alike. -/
theorem plain_alike (alike : session.Alike outside other) (plain : step.isPlain = true)
    (own : step.outsideAfter? outside = some after) :
    (other.step step).1 = (session.step step).1 ∧
      (session.step step).2.Alike after (other.step step).2 := by
  cases step with
  | within _ _ _ | thread _ => contradiction
  | enter name config =>
      cases own
      exact ⟨rfl, enter_alike alike name config⟩
  | leave name =>
      simp only [Step.outsideAfter?] at own
      split at own
      · contradiction
      · rename_i free
        cases own
        exact leave_alike alike free
  | make _ _ _ | read _ | drain _ | inspect _ | iterate _ _ | pull _ | setConfig _ | resetConfig
  | getConfig =>
      cases own
      have unseen := contexts_unseen session other.contexts plain rfl
      rw [← alike.same] at unseen
      rw [unseen]
      refine ⟨rfl, rfl, ?_⟩
      intro name free
      rw [Session.untouched_by_step session plain nofun]
      exact alike.contexts name free

theorem along_append {earlier later : List Step} :
    Step.outsideAlong? outside (earlier ++ later) =
      (Step.outsideAlong? outside earlier).bind fun between =>
        Step.outsideAlong? between later := by
  rw [Step.outsideAlong?, List.foldlM_append]
  rfl

end Alike

mutual

theorem step_alike {session other : Session} {outside after : List String}
    (alike : session.Alike outside other) :
    (step : Step) →
      Step.outsideAlong? outside ((session.momentsOf step).map Moment.step) = some after →
      (other.step step).1 = (session.step step).1 ∧
        (session.step step).2.Alike after (other.step step).2
  | .within config stopAtError steps, own => by
      have inside := run_alike (alike_under alike config) stopAtError steps own
      simp only [Session.step, Session.close, inside.1, alike_active alike, true_and]
      exact alike_under inside.2 session.active
  | .thread steps, own => by
      have inside := run_alike (alike_under alike .default) false steps own
      simp only [Session.step, Session.close, inside.1, alike_active alike, true_and]
      exact alike_under inside.2 session.active
  | .make _ _ _, own | .read _, own | .drain _, own | .inspect _, own | .iterate _ _, own
  | .pull _, own | .setConfig _, own | .resetConfig, own | .getConfig, own | .enter _ _, own
  | .leave _, own => by
      apply plain_alike alike rfl
      simpa [Session.momentsOf, Step.outsideAlong?] using own

theorem run_alike {session other : Session} {outside after : List String}
    (alike : session.Alike outside other) (stopAtError : Bool) :
    (steps : List Step) →
      Step.outsideAlong? outside ((session.moments stopAtError steps).map Moment.step) =
        some after →
      (other.run stopAtError steps).1 = (session.run stopAtError steps).1 ∧
        (session.run stopAtError steps).2.Alike after (other.run stopAtError steps).2
  | [], own => by
      cases own
      exact ⟨rfl, alike⟩
  | first :: later, own => by
      simp only [Session.moments, List.map_append, along_append, Option.bind_eq_some_iff] at own
      obtain ⟨between, here, behind⟩ := own
      have left := step_alike alike first here
      simp only [Session.run, left.1]
      split at behind
      · rename_i stops
        cases behind
        rw [if_pos stops, if_pos stops]
        exact ⟨rfl, left.2⟩
      · rename_i goes
        have right := run_alike left.2 stopAtError later behind
        rw [if_neg goes, if_neg goes]
        exact ⟨congrArg (List.cons _) right.1, right.2⟩

end

/-- Threads are isolated from each other's configurations. Outwards: a thread that is over leaves
the configuration of the thread that started it as it was, and this is so even where the
configuration is a variable with a value in each thread and nothing is given back. Inwards: the
new thread starts with the default, and as long as it leaves no context that was entered outside,
what its steps answer and what they leave behind do not depend on the configuration of the thread
that started it, nor on those that the contexts open outside remember. -/
theorem threads_are_isolated (session : Session) (steps : List Step) :
    let answers := ((session.withActive .default).run false steps).1
    let finished := session.step (.thread steps)
    (finished.1 = .nested answers session.active ∧ finished.2.active = session.active) ∧
    (∀ (state : ThreadedSession) (thread : Nat), thread < state.values.length →
      state.seenFrom thread = session →
        let done := state.stepIn thread (.thread steps)
        done.1 = finished.1 ∧ done.2.seenFrom thread = finished.2 ∧
          ∀ started, started < state.values.length → done.2.value started = state.value started) ∧
    (∀ (other : Session) (outside : List String),
      (session.withActive other.active).Alike session.openContexts other →
      Step.outsideAlong? session.openContexts
          ((session.momentsOf (.thread steps)).map Moment.step) = some outside →
        (other.step (.thread steps)).1 = .nested answers other.active ∧
          (other.step (.thread steps)).2.lexers = finished.2.lexers ∧
          (finished.2.withActive other.active).Alike outside (other.step (.thread steps)).2) := by
  intro answers finished
  refine ⟨⟨rfl, rfl⟩, ?_, ?_⟩
  · rintro state thread started rfl done
    have seen := ThreadedSession.step_seen thread state started (.thread steps)
    have kept := ThreadedSession.run_keeps_others state.values.length false state.start steps
    refine ⟨seen.1, seen.2, ?_⟩
    intro earlier before
    exact ThreadedSession.value_behind_thread kept before
  · intro other outside alike own
    have inside := run_alike (alike_under alike .default) false steps own
    have lexers := alike_lexers inside.2
    refine ⟨?_, lexers, alike_under inside.2 other.active⟩
    simp only [Session.step, Session.close, inside.1]
    rfl

/-- A context that was entered outside is the way in: who leaves it in a thread takes over what it
remembers. -/
example :
    let opened (before : LexConfig) :=
      (Session.fresh.withActive before).enter "outer" ⟨false⟩
    ((opened ⟨true⟩).step (.thread [.leave "outer"])).1 = .nested [.configured ⟨true⟩] ⟨false⟩ ∧
      ((opened ⟨false⟩).step (.thread [.leave "outer"])).1 =
        .nested [.configured ⟨false⟩] ⟨false⟩ := ⟨rfl, rfl⟩

/-- Two threads start the same thread under different configurations and with a context open that
remembers different ones. The new thread makes a lexer in a block that an error ends, leaves a
context of a thread of its own, and gives the name of the open context to another. -/
theorem thread_beside_open_context :
    let steps : List Step :=
      [ .getConfig, .read "shared",
        .within ⟨true⟩ true [.make "strict" "\"a" none, .read "strict", .setConfig ⟨false⟩],
        .thread [.setConfig ⟨true⟩, .enter "inner" ⟨false⟩], .leave "inner",
        .enter "outer" ⟨false⟩, .leave "outer", .make "own" "b" none ]
    let shared := (Session.fresh.make "shared" "x \"y" none).2
    let session := (shared.withActive ⟨true⟩).enter "outer" ⟨false⟩
    let other := shared.enter "outer" ⟨true⟩
    session.openContexts = ["outer"] ∧ session.active ≠ other.active ∧
      (session.withActive other.active).Alike session.openContexts other ∧
      Step.outsideAlong? session.openContexts
          ((session.momentsOf (.thread steps)).map Moment.step) = some [] ∧
      (other.step (.thread steps)).1 =
        .nested ((session.withActive .default).run false steps).1 other.active ∧
      (other.step (.thread steps)).2.lexers = (session.step (.thread steps)).2.lexers := by
  intro steps shared session other
  have opened : session.openContexts = ["outer"] := by decide
  have alike : (session.withActive other.active).Alike session.openContexts other := by
    refine ⟨rfl, ?_⟩
    intro name free
    rw [opened, List.mem_singleton] at free
    exact (Session.lookup_other free _).trans (Session.lookup_other free _).symm
  have own : Step.outsideAlong? session.openContexts
      ((session.momentsOf (.thread steps)).map Moment.step) = some [] := by
    rw [opened]
    rfl
  have isolated := (threads_are_isolated session steps).2.2 other [] alike own
  exact ⟨opened, by decide, alike, own, isolated.1, isolated.2.1⟩

end ExprLexer
