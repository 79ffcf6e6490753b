import ExprLexer.Proofs.Moments

/-!
Isolation. Whatever else happens in a session, a lexer answers as if it were alone: the steps that
act on it, taken in their order in a session of its own, give the same answers. The session of its
own starts with the configuration under which the lexer was made, and nothing that the other one
does to its configuration, to other lexers or to their iterations comes up in it.
-/

namespace ExprLexer

structure Session.Numbered (session : Session) : Prop where
  names : ∀ name number, session.lexerNames.lookup name = some number →
    number < session.lexers.length
  iterations : ∀ iteration number state,
    session.iterations.lookup iteration = some (number, state) → number < session.lexers.length

section Numbers

variable {session next last : Session} {step : Step} {acted : Option Nat} {answer : Answer}
  {moments : List Moment}

theorem lexers_grow (change : PlainChange session step acted answer next) :
    session.lexers.length ≤ next.lexers.length := by
  cases change with
  | make name source file =>
      rw [Session.addLexer, List.length_append]
      exact Nat.le_add_right _ _
  | read _ | drain _ | pull _ =>
      simp only [Session.updateLexer, Session.putIteration, List.length_set]
      exact Nat.le_refl _
  | inspect _ | iterate _ _ | elsewhere _ _ _ _ => exact Nat.le_refl _

theorem update_numbered (numbered : session.Numbered) (number : Nat) (lexer : Lexer) :
    (session.updateLexer number lexer).Numbered := by
  constructor
  · intro name other found
    rw [Session.updateLexer, List.length_set]
    exact numbered.names name other found
  · intro iteration other state found
    rw [Session.updateLexer, List.length_set]
    exact numbered.iterations iteration other state found

theorem put_numbered (numbered : session.Numbered) (name : String) {number : Nat}
    (state : Iteration) (made : number < session.lexers.length) :
    (session.putIteration name number state).Numbered := by
  refine ⟨numbered.names, ?_⟩
  intro iteration other held found
  rcases lookup_put found with ⟨_, same⟩ | ⟨_, earlier⟩
  · cases same
    exact made
  · exact numbered.iterations iteration other held earlier

theorem add_numbered (numbered : session.Numbered) (name : String) (lexer : Lexer) :
    (session.addLexer name lexer).Numbered := by
  have grown : session.lexers.length < (session.addLexer name lexer).lexers.length := by
    rw [Session.addLexer, List.length_append]
    exact Nat.lt_succ_self _
  constructor
  · intro other number found
    rcases lookup_put found with ⟨_, rfl⟩ | ⟨_, earlier⟩
    · exact grown
    · exact Nat.lt_trans (numbered.names other number earlier) grown
  · intro iteration number state found
    exact Nat.lt_trans (numbered.iterations iteration number state found) grown

theorem change_numbered (numbered : session.Numbered)
    (change : PlainChange session step acted answer next) : next.Numbered := by
  cases change with
  | make name source file => exact add_numbered numbered _ _
  | read _ | drain _ => exact update_numbered numbered _ _
  | inspect _ => exact numbered
  | iterate iteration found =>
      have named := (Session.lexer_found_iff.mp found).1
      exact put_numbered numbered _ _ (numbered.names _ _ named)
  | pull found =>
      have named := (Session.iteration_found_iff.mp found).1
      apply put_numbered (update_numbered numbered _ _)
      rw [Session.updateLexer, List.length_set]
      exact numbered.iterations _ _ _ named
  | elsewhere _ _ _ _ => exact ⟨numbered.names, numbered.iterations⟩

theorem acted_on_made (numbered : session.Numbered) {number : Nat}
    (change : PlainChange session step (some number) answer next) :
    number < session.lexers.length := by
  cases change with
  | read found | drain found | inspect found | iterate _ found =>
      exact numbered.names _ _ (Session.lexer_found_iff.mp found).1
  | pull found => exact numbered.iterations _ _ _ (Session.iteration_found_iff.mp found).1

theorem numbered_under (numbered : session.Numbered) (config : LexConfig) :
    (session.withActive config).Numbered :=
  ⟨numbered.names, numbered.iterations⟩

theorem leads_numbered (leads : Leads session moments last) (numbered : session.Numbered) :
    last.Numbered := by
  induction leads with
  | nothing session config => exact numbered_under numbered config
  | moment config plain _ induction =>
      apply induction
      exact change_numbered (numbered_under numbered config) (Session.plain_change _ plain)

theorem leads_grow (leads : Leads session moments last) :
    session.lexers.length ≤ last.lexers.length := by
  induction leads with
  | nothing session config => exact Nat.le_refl _
  | @moment session _ _ _ config plain _ induction =>
      have grown := lexers_grow (Session.plain_change (session.withActive config) plain)
      exact Nat.le_trans grown induction

theorem earlier_act_on_made (leads : Leads session moments last) (numbered : session.Numbered)
    {moment : Moment} (member : moment ∈ moments) {number : Nat}
    (acts : moment.lexer? = some number) : number < last.lexers.length := by
  induction leads with
  | nothing session config => contradiction
  | @moment session _ _ _ config plain rest induction =>
      have under := numbered_under numbered config
      have change := Session.plain_change (session.withActive config) plain
      rcases List.mem_cons.mp member with rfl | later
      · have grown := Nat.le_trans (lexers_grow change) (leads_grow rest)
        rw [acts] at change
        exact Nat.lt_of_lt_of_le (acted_on_made under change) grown
      · exact induction (change_numbered under change) later

theorem fresh_numbered : Session.fresh.Numbered := ⟨nofun, nofun⟩

theorem leads_split {before after : List Moment} {made : Moment}
    (leads : Leads session (before ++ made :: after) last) :
    ∃ between config, Leads session before between ∧
      made.session = between.withActive config ∧ Leads made.after after last := by
  induction before generalizing session with
  | nil =>
      rw [List.nil_append] at leads
      cases leads with
      | moment config _ rest => exact ⟨session, config, .nothing session session.active, rfl, rest⟩
  | cons first before induction =>
      rw [List.cons_append] at leads
      cases leads with
      | moment config plain rest =>
          obtain ⟨between, other, earlier, same, later⟩ := induction rest
          exact ⟨between, other, .moment config plain earlier, same, later⟩

end Numbers

/-- A session holds a lexer under a number, and another session holds it alone. What a name or an
iteration means in the first session, if it means this lexer, it means in the other too. -/
structure Mirrors (session : Session) (number : Nat) (alone : Session) (name : String)
    (lexer : Lexer) : Prop where
  held : session.lexers[number]? = some lexer
  only : alone.lexers = [lexer]
  named : alone.lexerNames.lookup name = some 0
  names : ∀ other, session.lexerNames.lookup other = some number → other = name
  iterations : ∀ iteration state, session.iterations.lookup iteration = some (number, state) →
    alone.iterations.lookup iteration = some (0, state)

section Mirrored

variable {session next last alone : Session} {number : Nat} {name : String} {lexer : Lexer}

theorem mirrors_under (mirrors : Mirrors session number alone name lexer) (config : LexConfig) :
    Mirrors (session.withActive config) number alone name lexer :=
  ⟨mirrors.held, mirrors.only, mirrors.named, mirrors.names, mirrors.iterations⟩

theorem mirrored_lexer (mirrors : Mirrors session number alone name lexer) {other : String}
    {held : Lexer} (found : session.lexer? other = some (number, held)) :
    held = lexer ∧ alone.lexer? other = some (0, lexer) := by
  obtain ⟨named, there⟩ := Session.lexer_found_iff.mp found
  have same := mirrors.names other named
  subst same
  constructor
  · exact Option.some.inj (there.symm.trans mirrors.held)
  · apply Session.lexer_found_iff.mpr
    rw [mirrors.only]
    exact ⟨mirrors.named, rfl⟩

theorem mirrored_iteration (mirrors : Mirrors session number alone name lexer)
    {iteration : String} {held : Lexer} {state : Iteration}
    (found : session.iteration? iteration = some (number, held, state)) :
    held = lexer ∧ alone.iteration? iteration = some (0, lexer, state) := by
  obtain ⟨named, there⟩ := Session.iteration_found_iff.mp found
  constructor
  · exact Option.some.inj (there.symm.trans mirrors.held)
  · apply Session.iteration_found_iff.mpr
    rw [mirrors.only]
    exact ⟨mirrors.iterations iteration state named, rfl⟩

theorem update_mirrors (mirrors : Mirrors session number alone name lexer) (later : Lexer) :
    Mirrors (session.updateLexer number later) number (alone.updateLexer 0 later) name later := by
  refine ⟨?_, ?_, mirrors.named, mirrors.names, mirrors.iterations⟩
  · obtain ⟨bound, _⟩ := List.getElem?_eq_some_iff.mp mirrors.held
    exact List.getElem?_set_self bound
  · rw [Session.updateLexer, mirrors.only]
    rfl

theorem put_mirrors (mirrors : Mirrors session number alone name lexer) (iteration : String)
    (state : Iteration) :
    Mirrors (session.putIteration iteration number state) number
      (alone.putIteration iteration 0 state) name lexer := by
  refine ⟨mirrors.held, mirrors.only, mirrors.named, mirrors.names, ?_⟩
  intro other held found
  rw [Session.putIteration, List.lookup_cons]
  rcases lookup_put found with ⟨same, entry⟩ | ⟨different, earlier⟩
  · cases entry
    rw [beq_iff_eq.mpr same]
  · rw [beq_eq_false_iff_ne.mpr different]
    exact mirrors.iterations other held earlier

theorem own_step {step : Step} {answer : Answer}
    (mirrors : Mirrors session number alone name lexer)
    (change : PlainChange session step (some number) answer next) :
    (alone.step step).1 = answer ∧
      ∃ later, Mirrors next number (alone.step step).2 name later := by
  cases change with
  | read found =>
      obtain ⟨rfl, there⟩ := mirrored_lexer mirrors found
      rw [Session.read_found there]
      exact ⟨rfl, _, update_mirrors mirrors _⟩
  | drain found =>
      obtain ⟨rfl, there⟩ := mirrored_lexer mirrors found
      rw [Session.drain_found there]
      exact ⟨rfl, _, update_mirrors mirrors _⟩
  | inspect found =>
      obtain ⟨rfl, there⟩ := mirrored_lexer mirrors found
      rw [Session.inspect_found there]
      exact ⟨rfl, _, mirrors⟩
  | iterate iteration found =>
      obtain ⟨rfl, there⟩ := mirrored_lexer mirrors found
      rw [Session.iterate_found there]
      exact ⟨rfl, _, put_mirrors mirrors iteration .fresh⟩
  | pull found =>
      obtain ⟨rfl, there⟩ := mirrored_iteration mirrors found
      rw [Session.pull_found there]
      exact ⟨rfl, _, put_mirrors (update_mirrors mirrors _) _ _⟩

theorem update_elsewhere (mirrors : Mirrors session number alone name lexer) {other : Nat}
    (different : other ≠ number) (later : Lexer) :
    Mirrors (session.updateLexer other later) number alone name lexer := by
  refine ⟨?_, mirrors.only, mirrors.named, mirrors.names, mirrors.iterations⟩
  rw [Session.updateLexer, List.getElem?_set_ne different]
  exact mirrors.held

/-- A name that is given to an iteration over another lexer is lost to this one. -/
theorem put_elsewhere (mirrors : Mirrors session number alone name lexer) {other : Nat}
    (different : other ≠ number) (iteration : String) (state : Iteration) :
    Mirrors (session.putIteration iteration other state) number alone name lexer := by
  refine ⟨mirrors.held, mirrors.only, mirrors.named, mirrors.names, ?_⟩
  intro called held found
  rcases lookup_put found with ⟨_, entry⟩ | ⟨_, earlier⟩
  · exact absurd (Prod.mk.inj entry).1.symm different
  · exact mirrors.iterations called held earlier

theorem add_elsewhere (mirrors : Mirrors session number alone name lexer) (other : String)
    (added : Lexer) : Mirrors (session.addLexer other added) number alone name lexer := by
  obtain ⟨bound, _⟩ := List.getElem?_eq_some_iff.mp mirrors.held
  refine ⟨?_, mirrors.only, mirrors.named, ?_, mirrors.iterations⟩
  · rw [Session.addLexer, List.getElem?_append_left bound]
    exact mirrors.held
  · intro called found
    rcases lookup_put found with ⟨_, entry⟩ | ⟨_, earlier⟩
    · exact absurd entry (Nat.ne_of_lt bound)
    · exact mirrors.names called earlier

/-- A step that does not act on the lexer is not seen by the session of its own. -/
theorem other_step {step : Step} {acted : Option Nat} {answer : Answer}
    (mirrors : Mirrors session number alone name lexer)
    (change : PlainChange session step acted answer next) (other : acted ≠ some number) :
    Mirrors next number alone name lexer := by
  cases change with
  | make _ _ _ => exact add_elsewhere mirrors _ _
  | read _ | drain _ =>
      have different := fun same => other (congrArg some same)
      exact update_elsewhere mirrors different _
  | inspect _ => exact mirrors
  | iterate _ _ =>
      have different := fun same => other (congrArg some same)
      exact put_elsewhere mirrors different _ _
  | pull _ =>
      have different := fun same => other (congrArg some same)
      exact put_elsewhere (update_elsewhere mirrors different _) different _ _
  | elsewhere _ _ _ _ =>
      exact ⟨mirrors.held, mirrors.only, mirrors.named, mirrors.names, mirrors.iterations⟩

theorem own_moments_alone {moments : List Moment} (leads : Leads session moments last)
    (mirrors : Mirrors session number alone name lexer) :
    (alone.run false ((moments.filter (Moment.actsOn number)).map Moment.step)).1 =
      (moments.filter (Moment.actsOn number)).map Moment.answer := by
  induction leads generalizing alone lexer with
  | nothing session config => rfl
  | @moment session _ step later config plain rest induction =>
      have under := mirrors_under mirrors config
      have change := Session.plain_change (session.withActive config) plain
      by_cases own : Moment.actsOn number ⟨session.withActive config, step⟩ = true
      · rw [beq_iff_eq.mp own] at change
        obtain ⟨answered, held, still⟩ := own_step under change
        rw [List.filter_cons_of_pos own, List.map_cons, List.map_cons, Session.run_cons, answered,
          induction still]
        rfl
      · have other : Moment.lexer? ⟨session.withActive config, step⟩ ≠ some number :=
          fun same => own (beq_iff_eq.mpr same)
        rw [List.filter_cons_of_neg own]
        exact induction (other_step under change other)

theorem made_mirrors (numbered : session.Numbered) (name : String) (lexer : Lexer) :
    Mirrors (session.addLexer name lexer) session.lexers.length
      ((Session.fresh.withActive session.active).addLexer name lexer) name lexer := by
  refine ⟨List.getElem?_concat_length, rfl, List.lookup_cons_self, ?_, ?_⟩
  · intro other found
    rcases lookup_put found with ⟨same, _⟩ | ⟨_, earlier⟩
    · exact same
    · exact absurd (numbered.names other _ earlier) (Nat.lt_irrefl _)
  · intro iteration state found
    exact absurd (numbered.iterations iteration _ state found) (Nat.lt_irrefl _)

end Mirrored

/-- A lexer hears nothing but its own steps. In a session of any steps, with blocks, threads and
names used again, the steps that act on a lexer are answered, reports included, as they are in a
session in which the lexer is made under the same configuration and no other step is taken. -/
theorem lexer_hears_only_its_own_steps (steps : List Step) (before after : List Moment)
    (made : Moment) (name source : String) (file : Option String)
    (taken : Session.fresh.moments false steps = before ++ made :: after)
    (making : made.step = .make name source file) :
    let moments := Session.fresh.moments false steps
    let own := moments.filter (Moment.actsOn made.session.lexers.length)
    let alone := ((Session.fresh.withActive made.session.active).make name source file).2
    Answer.plainAll (Session.fresh.run false steps).1 = moments.map Moment.answer ∧
      made.answer = .made (.ofSource source file made.session.active) ∧
      made.after.lexers[made.session.lexers.length]? =
        some (.ofSource source file made.session.active) ∧
      own.map Moment.answer = (alone.run false (own.map Moment.step)).1 := by
  intro moments own alone
  have leads := Session.run_leads false Session.fresh steps
  rw [taken] at leads
  obtain ⟨between, config, earlier, under, later⟩ := leads_split leads
  have numbered : made.session.Numbered := by
    rw [under]
    exact numbered_under (leads_numbered earlier fresh_numbered) config
  have added : made.after = made.session.addLexer name
      (.ofSource source file made.session.active) := by
    rw [Moment.after, making]
    rfl
  have answered : made.answer = .made (.ofSource source file made.session.active) := by
    rw [Moment.answer, making]
    rfl
  have noneBefore : before.filter (Moment.actsOn made.session.lexers.length) = [] := by
    apply List.filter_eq_nil_iff.mpr
    intro moment member acts
    have made := earlier_act_on_made earlier fresh_numbered member (beq_iff_eq.mp acts)
    rw [under] at made
    exact Nat.lt_irrefl _ made
  have notMaking : ¬Moment.actsOn made.session.lexers.length made = true := by
    rw [Moment.actsOn, Moment.lexer?, making]
    exact Bool.false_ne_true
  have onlyAfter : own = after.filter (Moment.actsOn made.session.lexers.length) := by
    simp only [own, moments]
    rw [taken, List.filter_append, noneBefore, List.filter_cons_of_neg notMaking, List.nil_append]
  refine ⟨Session.run_answers false Session.fresh steps, answered, ?_, ?_⟩
  · rw [added]
    exact List.getElem?_concat_length
  · rw [added] at later
    rw [onlyAfter]
    exact (own_moments_alone later (made_mirrors numbered name _)).symm

/-- A strict lexer, made in a block and read in a thread, under a name that is given away. -/
theorem strict_lexer_outlives_its_block :
    let steps : List Step :=
      [ .make "other" "#" none,
        .within ⟨true⟩ true
          [ .make "lexer" "x \"y" none, .read "lexer",
            .thread [.iterate "lexer" "tokens", .read "other", .make "lexer" ";" none] ],
        .setConfig ⟨false⟩, .read "lexer", .pull "tokens", .iterate "other" "tokens",
        .pull "tokens" ]
    let moments := Session.fresh.moments false steps
    let making : Step := .make "lexer" "x \"y" none
    let made : Moment := ⟨(Session.fresh.make "other" "#" none).2.withActive ⟨true⟩, making⟩
    let own := moments.filter (Moment.actsOn 1)
    moments = moments.take 1 ++ made :: moments.drop 2 ∧ made.step = making ∧
      own.map Moment.step = [.read "lexer", .iterate "lexer" "tokens", .pull "tokens"] ∧
      own.map Moment.answer =
        (((Session.fresh.withActive ⟨true⟩).make "lexer" "x \"y" none).2.run false
          [.read "lexer", .iterate "lexer" "tokens", .pull "tokens"]).1 := by
  intro steps moments making made own
  have taken : moments = moments.take 1 ++ made :: moments.drop 2 := rfl
  have stepped : own.map Moment.step =
      [.read "lexer", .iterate "lexer" "tokens", .pull "tokens"] := rfl
  have answers := lexer_hears_only_its_own_steps _ _ _ made _ _ _ taken rfl
  refine ⟨taken, rfl, stepped, ?_⟩
  rw [← stepped]
  exact answers.2.2.2

end ExprLexer
