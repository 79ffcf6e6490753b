import ExprLexer.Library

/-!
The configurations of a thread as a stack that nobody keeps. The lowest frame is the thread's own,
each block and each context that is entered puts a frame on top, and leaving takes it off. The
stack follows events for as long as they are in order: what is left is what was entered last.
-/

namespace ExprLexer

inductive ConfigEvent where
  /-- Lexers and iterations at work. -/
  | unconcerned
  | set (config : LexConfig)
  | enter (context : String) (config : LexConfig)
  | leave (context : String)
  | openBlock (config : LexConfig)
  | closeBlock
  /-- Other threads at work, with the names of the contexts that they enter or leave. -/
  | elsewhere (contexts : List String)
  deriving DecidableEq, Repr

inductive FrameOwner where
  | thread
  | block
  | context (name : String)
  deriving DecidableEq, Repr

structure Frame where
  owner : FrameOwner
  config : LexConfig
  deriving DecidableEq, Repr

namespace ConfigStack

def top? (stack : List Frame) : Option LexConfig := stack.head?.map Frame.config

/-- A context of that name has been entered and not been left. -/
def IsOpen (stack : List Frame) (name : String) : Prop := .context name ∈ stack.map Frame.owner

instance (stack : List Frame) : DecidablePred (IsOpen stack) := fun name =>
  inferInstanceAs (Decidable (.context name ∈ stack.map Frame.owner))

def overwrite? (config : LexConfig) : List Frame → Option (List Frame)
  | [] => none
  | top :: below => some (⟨top.owner, config⟩ :: below)

def pop? (owner : FrameOwner) : List Frame → Option (List Frame)
  | [] => none
  | top :: below => if top.owner = owner then some below else none

/-- The stack after an event, if the event is in order. Open contexts are told apart by their
names and are no business of other threads. -/
def after? (stack : List Frame) : ConfigEvent → Option (List Frame)
  | .unconcerned => some stack
  | .set config => overwrite? config stack
  | .enter name config =>
      if IsOpen stack name then none else some (⟨.context name, config⟩ :: stack)
  | .leave name => pop? (.context name) stack
  | .openBlock config => some (⟨.block, config⟩ :: stack)
  | .closeBlock => pop? .block stack
  | .elsewhere names => if ∀ name ∈ names, ¬IsOpen stack name then some stack else none

def run? (stack : List Frame) (events : List ConfigEvent) : Option (List Frame) :=
  events.foldlM after? stack

theorem run_cons_iff {stack last : List Frame} {event : ConfigEvent} {events : List ConfigEvent} :
    run? stack (event :: events) = some last ↔
      ∃ next, after? stack event = some next ∧ run? next events = some last := by
  rw [run?, List.foldlM_cons]
  exact Option.bind_eq_some_iff

theorem run_append {stack between : List Frame} {earlier : List ConfigEvent}
    (first : run? stack earlier = some between) (later : List ConfigEvent) :
    run? stack (earlier ++ later) = run? between later := by
  rw [run?, List.foldlM_append]
  rw [run?] at first
  rw [first]
  rfl

theorem pop_iff {owner : FrameOwner} {stack next : List Frame} :
    pop? owner stack = some next ↔ ∃ config, stack = ⟨owner, config⟩ :: next := by
  cases stack with
  | nil => simp [pop?]
  | cons top below =>
      cases top
      simp [pop?, and_comm]

theorem overwrite_iff {config : LexConfig} {stack next : List Frame} :
    overwrite? config stack = some next ↔
      ∃ top below, stack = top :: below ∧ next = ⟨top.owner, config⟩ :: below := by
  cases stack with
  | nil => simp [overwrite?]
  | cons top below =>
      rw [overwrite?, Option.some.injEq]
      constructor
      · intro same
        exact ⟨top, below, rfl, same.symm⟩
      · rintro ⟨_, _, split, rfl⟩
        cases split
        rfl

theorem open_above_thread {stack : List Frame} {config : LexConfig} {name : String} :
    IsOpen (stack ++ [⟨.thread, config⟩]) name ↔ IsOpen stack name := by
  simp [IsOpen]

/-- What is in order on its own is in order in a thread, and leaves the frame of the thread. -/
theorem after_above_thread {stack next : List Frame} {event : ConfigEvent} (config : LexConfig)
    (inOrder : after? stack event = some next) :
    after? (stack ++ [⟨.thread, config⟩]) event = some (next ++ [⟨.thread, config⟩]) := by
  cases event with
  | unconcerned | openBlock opened =>
      cases inOrder
      rfl
  | set config =>
      obtain ⟨top, below, rfl, rfl⟩ := overwrite_iff.mp inOrder
      rfl
  | leave name =>
      obtain ⟨entered, rfl⟩ := pop_iff.mp inOrder
      simp only [after?, List.cons_append]
      exact pop_iff.mpr ⟨entered, rfl⟩
  | closeBlock =>
      obtain ⟨opened, rfl⟩ := pop_iff.mp inOrder
      simp only [after?, List.cons_append]
      exact pop_iff.mpr ⟨opened, rfl⟩
  | enter name entered =>
      simp only [after?, open_above_thread] at inOrder ⊢
      by_cases already : IsOpen stack name
      · simp [already] at inOrder
      · rw [if_neg already] at inOrder ⊢
        cases inOrder
        rfl
  | elsewhere names =>
      simp only [after?, open_above_thread] at inOrder ⊢
      by_cases apart : ∀ name ∈ names, ¬IsOpen stack name
      · rw [if_pos apart] at inOrder ⊢
        cases inOrder
        rfl
      · simp [if_neg apart] at inOrder

theorem run_above_thread {stack last : List Frame} {events : List ConfigEvent}
    (config : LexConfig) (inOrder : run? stack events = some last) :
    run? (stack ++ [⟨.thread, config⟩]) events = some (last ++ [⟨.thread, config⟩]) := by
  induction events generalizing stack with
  | nil =>
      cases inOrder
      rfl
  | cons event events induction =>
      obtain ⟨next, first, rest⟩ := run_cons_iff.mp inOrder
      exact run_cons_iff.mpr ⟨_, after_above_thread config first, induction rest⟩

end ConfigStack

end ExprLexer
