import ExprLexer.Proofs.Passages

/-!
Contexts nest. A session keeps no stack: it has one active configuration, and each context has
the one that was active when it was entered. As long as contexts are left in the reverse order of
entering, the active configuration is the top of a stack all the same, because what each open
context or block remembers is what the frame below it holds.
-/

namespace ExprLexer

/-- What is remembered for each frame of a stack but the lowest is what the frame below holds. A
context remembers it under its name, which no frame below has; for a block it is pending. -/
inductive Remembered (contexts : List (String × ConfigContext)) :
    List LexConfig → List Frame → Prop where
  | thread (pending : List LexConfig) (config : LexConfig) :
      Remembered contexts pending [⟨.thread, config⟩]
  | block {pending : List LexConfig} {below : Frame} {lower : List Frame} (config : LexConfig)
      (rest : Remembered contexts pending (below :: lower)) :
      Remembered contexts (below.config :: pending) (⟨.block, config⟩ :: below :: lower)
  | context {pending : List LexConfig} {below : Frame} {lower : List Frame} {name : String}
      (config : LexConfig) (saved : contexts.lookup name = some ⟨below.config, false⟩)
      (once : ¬ConfigStack.IsOpen (below :: lower) name)
      (rest : Remembered contexts pending (below :: lower)) :
      Remembered contexts pending (⟨.context name, config⟩ :: below :: lower)

structure KeepsStack (session : Session) (pending : List LexConfig) (stack : List Frame) :
    Prop where
  top : ConfigStack.top? stack = some session.active
  remembered : Remembered session.contexts pending stack

namespace ConfigStack

variable {contexts others : List (String × ConfigContext)} {pending : List LexConfig}
  {stack below : List Frame} {top : Frame} {name : String}

theorem open_below (frame : Frame) (isOpen : IsOpen stack name) : IsOpen (frame :: stack) name :=
  List.mem_cons_of_mem _ isOpen

theorem remembered_under (config : LexConfig)
    (remembered : Remembered contexts pending (top :: below)) :
    Remembered contexts pending (⟨top.owner, config⟩ :: below) := by
  cases remembered with
  | thread _ _ => exact .thread pending config
  | block _ rest => exact .block config rest
  | context _ saved once rest => exact .context config saved once rest

theorem remembered_still (remembered : Remembered contexts pending stack)
    (still : ∀ name, IsOpen stack name → others.lookup name = contexts.lookup name) :
    Remembered others pending stack := by
  induction remembered with
  | thread pending config => exact .thread pending config
  | block config _ induction =>
      exact .block config (induction fun name isOpen => still name (open_below _ isOpen))
  | context config saved once _ induction =>
      have here := still _ List.mem_cons_self
      have rest := induction fun name isOpen => still name (open_below _ isOpen)
      exact .context config (here.trans saved) once rest

end ConfigStack

section Kept

variable {session last : Session} {pending outer : List LexConfig} {stack next : List Frame}

theorem keeps_set (keeps : KeepsStack session pending stack) {config : LexConfig}
    (inOrder : ConfigStack.overwrite? config stack = some next) :
    KeepsStack (session.withActive config) pending next := by
  obtain ⟨top, below, rfl, rfl⟩ := ConfigStack.overwrite_iff.mp inOrder
  exact ⟨rfl, ConfigStack.remembered_under config keeps.remembered⟩

theorem keeps_enter (keeps : KeepsStack session pending stack) {name : String}
    (closed : ¬ConfigStack.IsOpen stack name) (config : LexConfig) :
    KeepsStack (session.enter name config) pending (⟨.context name, config⟩ :: stack) := by
  cases stack with
  | nil => nomatch keeps.remembered
  | cons below lower =>
      have active : below.config = session.active := Option.some.inj keeps.top
      have saved : (session.enter name config).contexts.lookup name =
          some ⟨below.config, false⟩ := by
        rw [active]
        exact List.lookup_cons_self
      refine ⟨rfl, .context config saved closed ?_⟩
      apply ConfigStack.remembered_still keeps.remembered
      intro other isOpen
      have different : other ≠ name := by
        rintro rfl
        exact closed isOpen
      exact Session.lookup_other different _

theorem keeps_leave {name : String} (keeps : KeepsStack session pending stack)
    (inOrder : ConfigStack.pop? (.context name) stack = some next) :
    KeepsStack (session.step (.leave name)).2 pending next := by
  obtain ⟨config, rfl⟩ := ConfigStack.pop_iff.mp inOrder
  cases keeps.remembered with
  | context _ saved once rest =>
      rw [Session.leave_found saved]
      refine ⟨rfl, ConfigStack.remembered_still rest ?_⟩
      intro other isOpen
      have different : other ≠ name := by
        rintro rfl
        exact once isOpen
      exact Session.lookup_other different _

theorem keeps_plain {step : Step} (plain : step.isPlain = true)
    (keeps : KeepsStack session pending stack)
    (inOrder : ConfigStack.after? stack step.configEvent = some next) :
    KeepsStack (session.step step).2 pending next := by
  cases step with
  | within _ _ _ | thread _ => contradiction
  | setConfig config => exact keeps_set keeps inOrder
  | resetConfig => exact keeps_set keeps inOrder
  | enter name config =>
      by_cases isOpen : ConfigStack.IsOpen stack name
      · simp [Step.configEvent, ConfigStack.after?, isOpen] at inOrder
      · simp only [Step.configEvent, ConfigStack.after?, if_neg isOpen] at inOrder
        cases inOrder
        exact keeps_enter keeps isOpen config
  | leave name => exact keeps_leave keeps inOrder
  | make _ _ _ | read _ | drain _ | inspect _ | iterate _ _ | pull _ | getConfig =>
      obtain ⟨active, contexts⟩ := Session.unconcerned_step session plain rfl
      cases inOrder
      refine ⟨?_, ?_⟩
      · rw [active]
        exact keeps.top
      · rw [contexts]
        exact keeps.remembered

theorem keeps_open_block (keeps : KeepsStack session pending stack) (config : LexConfig) :
    KeepsStack (session.withActive config) (session.active :: pending)
      (⟨.block, config⟩ :: stack) := by
  cases stack with
  | nil => nomatch keeps.remembered
  | cons below lower =>
      have active : below.config = session.active := Option.some.inj keeps.top
      rw [← active]
      exact ⟨rfl, .block config keeps.remembered⟩

theorem keeps_close_block {before : LexConfig} (keeps : KeepsStack session (before :: outer) stack)
    (inOrder : ConfigStack.pop? .block stack = some next) :
    KeepsStack (session.withActive before) outer next := by
  obtain ⟨config, rfl⟩ := ConfigStack.pop_iff.mp inOrder
  cases keeps.remembered with
  | block _ rest => exact ⟨rfl, rest⟩

theorem keeps_elsewhere {steps : List Step} (keeps : KeepsStack session pending stack)
    (apart : ∀ name ∈ session.touchedContexts steps, ¬ConfigStack.IsOpen stack name) :
    KeepsStack (session.step (.thread steps)).2 pending stack := by
  refine ⟨keeps.top, ConfigStack.remembered_still keeps.remembered ?_⟩
  intro name isOpen
  exact Session.untouched_elsewhere fun touched => apart name touched isOpen

/-- One passage: if it is in order, the session goes on as if it kept the stack. -/
theorem keeps_passage {passage : Passage} (passes : Passes session pending passage outer)
    (keeps : KeepsStack session pending stack)
    (inOrder : ConfigStack.after? stack passage.event = some next) :
    KeepsStack passage.after outer next := by
  cases passes with
  | plain step plain => exact keeps_plain plain keeps inOrder
  | openBlock config =>
      cases inOrder
      exact keeps_open_block keeps config
  | closeBlock opened =>
      subst opened
      exact keeps_close_block keeps inOrder
  | elsewhere steps =>
      simp only [ConfigStack.after?] at inOrder
      split at inOrder
      · rename_i apart
        cases inOrder
        exact keeps_elsewhere keeps apart
      · contradiction

theorem keeps_path {passages : List Passage} (path : Path session pending passages last outer)
    (keeps : KeepsStack session pending stack)
    (inOrder : ConfigStack.run? stack (passages.map Passage.event) = some next) :
    KeepsStack last outer next := by
  induction path generalizing stack with
  | nothing session pending =>
      cases inOrder
      exact keeps
  | passage passes _ induction =>
      obtain ⟨between, first, rest⟩ := ConfigStack.run_cons_iff.mp inOrder
      exact induction (keeps_passage passes keeps first) rest

theorem keeps_thread (session : Session) (pending : List LexConfig) :
    KeepsStack session pending [⟨.thread, session.active⟩] :=
  ⟨rfl, .thread pending session.active⟩

/-- A stretch that is in order on its own ends under the configuration under which it began. -/
theorem active_again {passages : List Passage} (path : Path session pending passages last outer)
    (balanced : ConfigStack.run? [] (passages.map Passage.event) = some []) :
    last.active = session.active := by
  have inOrder := ConfigStack.run_above_thread session.active balanced
  have keeps := keeps_path path (keeps_thread session pending) inOrder
  exact (Option.some.inj keeps.top).symm

end Kept

namespace Step

mutual

/-- Whether a step enters contexts as blocks alone. What other threads do is no matter. -/
def inBlocks : Step → Bool
  | enter _ _ => false
  | leave _ => false
  | within _ _ steps => allInBlocks steps
  | _ => true

def allInBlocks : List Step → Bool
  | [] => true
  | first :: later => first.inBlocks && allInBlocks later

end

end Step

section Blocks

theorem plain_in_blocks (session : Session) (top : Frame) (below : List Frame) {step : Step}
    (plain : step.isPlain = true) (inBlocks : step.inBlocks = true) :
    ∃ config, ConfigStack.run? (top :: below) ((session.passagesOf step).map Passage.event) =
      some (⟨top.owner, config⟩ :: below) := by
  cases step with
  | within _ _ _ | thread _ => contradiction
  | enter _ _ | leave _ => contradiction
  | setConfig config => exact ⟨config, rfl⟩
  | resetConfig => exact ⟨.default, rfl⟩
  | make _ _ _ | read _ | drain _ | inspect _ | iterate _ _ | pull _ | getConfig =>
      exact ⟨top.config, rfl⟩

mutual

theorem step_in_blocks (session : Session) (top : Frame) (below : List Frame)
    (none : ∀ name, ¬ConfigStack.IsOpen (top :: below) name) :
    (step : Step) → step.inBlocks = true →
      ∃ config, ConfigStack.run? (top :: below) ((session.passagesOf step).map Passage.event) =
        some (⟨top.owner, config⟩ :: below)
  | .within config stopAtError steps, inBlocks => by
      have noneInside : ∀ name,
          ¬ConfigStack.IsOpen (⟨.block, config⟩ :: top :: below) name := by
        intro name isOpen
        rcases List.mem_cons.mp isOpen with same | lower
        · contradiction
        · exact none name lower
      obtain ⟨last, inside⟩ := run_in_blocks stopAtError (session.withActive config)
        ⟨.block, config⟩ (top :: below) noneInside steps inBlocks
      refine ⟨top.config, ?_⟩
      simp only [Session.passagesOf, List.map_cons, List.map_append]
      apply ConfigStack.run_cons_iff.mpr
      refine ⟨⟨.block, config⟩ :: top :: below, rfl, ?_⟩
      rw [ConfigStack.run_append inside]
      rfl
  | .thread steps, _ => by
      refine ⟨top.config, ConfigStack.run_cons_iff.mpr ⟨top :: below, ?_, rfl⟩⟩
      exact if_pos fun name _ => none name
  | .enter _ _, inBlocks | .leave _, inBlocks => by contradiction
  | .make _ _ _, _ | .read _, _ | .drain _, _ | .inspect _, _ | .iterate _ _, _ | .pull _, _
  | .setConfig _, _ | .resetConfig, _ | .getConfig, _ =>
      plain_in_blocks session top below rfl rfl

theorem run_in_blocks (stopAtError : Bool) (session : Session) (top : Frame) (below : List Frame)
    (none : ∀ name, ¬ConfigStack.IsOpen (top :: below) name) :
    (steps : List Step) → Step.allInBlocks steps = true →
      ∃ config,
        ConfigStack.run? (top :: below)
            ((session.passages stopAtError steps).map Passage.event) =
          some (⟨top.owner, config⟩ :: below)
  | [], _ => ⟨top.config, rfl⟩
  | first :: later, inBlocks => by
      rw [Step.allInBlocks, Bool.and_eq_true] at inBlocks
      obtain ⟨between, left⟩ := step_in_blocks session top below none first inBlocks.1
      obtain ⟨last, right⟩ := run_in_blocks stopAtError (session.step first).2
        ⟨top.owner, between⟩ below none later inBlocks.2
      simp only [Session.passages]
      split
      · rw [List.append_nil]
        exact ⟨between, left⟩
      · refine ⟨last, ?_⟩
        rw [List.map_append, ConfigStack.run_append left, right]

end

end Blocks

/-- Contexts form a stack. At every moment of a run the active configuration is the top of the
stack, if all that happened was in order; the stack starts with one frame for the thread, which
in a fresh session and in every other thread holds the default. A stretch that is in order on its
own, such as a block, ends under the configuration under which it began, whatever happened in it.
Where contexts are entered as blocks alone, everything is in order, errors and other threads
included. -/
theorem contexts_form_a_stack (stopAtError : Bool) (session : Session) (steps : List Step) :
    let passages := session.passages stopAtError steps
    session.afterPassages passages = (session.run stopAtError steps).2 ∧
      (∀ earlier later stack, passages = earlier ++ later →
        ConfigStack.run? [⟨.thread, session.active⟩] (earlier.map Passage.event) = some stack →
        ConfigStack.top? stack = some (session.afterPassages earlier).active) ∧
      (∀ earlier block later, passages = earlier ++ block ++ later →
        ConfigStack.run? [] (block.map Passage.event) = some [] →
        (session.afterPassages (earlier ++ block)).active =
          (session.afterPassages earlier).active) ∧
      (Step.allInBlocks steps = true →
        ∃ config, ConfigStack.run? [⟨.thread, session.active⟩] (passages.map Passage.event) =
          some [⟨.thread, config⟩]) := by
  intro passages
  have path : Path session [] passages (session.run stopAtError steps).2 [] :=
    Session.run_path stopAtError session [] steps
  refine ⟨path_end path, ?_, ?_, ?_⟩
  · intro earlier later stack split inOrder
    rw [split] at path
    obtain ⟨between, _, before, _⟩ := path_split path
    have keeps := keeps_path before (keeps_thread session []) inOrder
    rw [path_end before]
    exact keeps.top
  · intro earlier block later split balanced
    rw [split] at path
    obtain ⟨_, _, front, _⟩ := path_split path
    obtain ⟨between, _, before, inside⟩ := path_split front
    rw [path_end front, path_end before]
    exact active_again inside balanced
  · intro inBlocks
    have none : ∀ name, ¬ConfigStack.IsOpen [⟨.thread, session.active⟩] name := by
      intro name
      simp [ConfigStack.IsOpen]
    exact run_in_blocks stopAtError session ⟨.thread, session.active⟩ [] none steps inBlocks

/-- A context around a block that an error ends, with a context inside and a thread behind it. At
the error three frames are on the stack; when the outer context is left all is as before. -/
theorem error_inside_nested_contexts :
    let steps : List Step :=
      [ .setConfig ⟨true⟩, .enter "outer" ⟨false⟩, .make "lexer" "#" none,
        .within ⟨true⟩ true
          [ .resetConfig, .enter "inner" ⟨true⟩, .leave "inner", .setConfig ⟨true⟩,
            .read "lexer", .setConfig ⟨false⟩ ],
        .thread [.setConfig ⟨true⟩, .enter "other" ⟨true⟩], .resetConfig, .leave "outer",
        .getConfig ]
    let passages := Session.fresh.passages false steps
    let before := passages.take 1
    let block := (passages.drop 1).take 12
    passages.map Passage.event =
        [ .set ⟨true⟩, .enter "outer" ⟨false⟩, .unconcerned, .openBlock ⟨true⟩, .set ⟨false⟩,
          .enter "inner" ⟨true⟩, .leave "inner", .set ⟨true⟩, .unconcerned, .closeBlock,
          .elsewhere ["other"], .set ⟨false⟩, .leave "outer", .unconcerned ] ∧
      ConfigStack.run? [⟨.thread, ⟨false⟩⟩] ((passages.take 9).map Passage.event) =
        some [⟨.block, ⟨true⟩⟩, ⟨.context "outer", ⟨false⟩⟩, ⟨.thread, ⟨true⟩⟩] ∧
      (Session.fresh.afterPassages (passages.take 9)).active = ⟨true⟩ ∧
      ConfigStack.run? [] (block.map Passage.event) = some [] ∧
      (Session.fresh.afterPassages (before ++ block)).active =
        (Session.fresh.afterPassages before).active := by
  intro steps passages before block
  have events : passages.map Passage.event =
      [ .set ⟨true⟩, .enter "outer" ⟨false⟩, .unconcerned, .openBlock ⟨true⟩, .set ⟨false⟩,
        .enter "inner" ⟨true⟩, .leave "inner", .set ⟨true⟩, .unconcerned, .closeBlock,
        .elsewhere ["other"], .set ⟨false⟩, .leave "outer", .unconcerned ] := rfl
  have inOrder : ConfigStack.run? [⟨.thread, ⟨false⟩⟩] ((passages.take 9).map Passage.event) =
      some [⟨.block, ⟨true⟩⟩, ⟨.context "outer", ⟨false⟩⟩, ⟨.thread, ⟨true⟩⟩] := by
    rw [List.map_take, events]
    decide
  have balanced : ConfigStack.run? [] (block.map Passage.event) = some [] := by
    rw [List.map_take, List.map_drop, events]
    decide
  obtain ⟨_, tops, restores, _⟩ := contexts_form_a_stack false Session.fresh steps
  have whole : passages = before ++ block ++ passages.drop 13 := rfl
  have top := tops (passages.take 9) (passages.drop 9) _ (List.take_append_drop 9 passages).symm
    inOrder
  exact ⟨events, inOrder, (Option.some.inj top).symm, balanced,
    restores before block (passages.drop 13) whole balanced⟩

end ExprLexer
