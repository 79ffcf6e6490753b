import ExprLexer.Proofs.Agreement
import ExprLexer.Proofs.Displacement

/-!
Concatenation. Where the boundary between two texts does not cut a lexeme short, the run over both
is the run over the first and then the run over the second, displaced by the first. The tokens of
the first text form a chain that holds in the longer text too, and the blanks behind the chain are
passed together with those that begin the second text.
-/

namespace ExprLexer

open Text

def Run.prepend (tokens : List Token) (run : Run) : Run :=
  { run with tokens := tokens ++ run.tokens }

/-- The second text does not extend the last token of the first, which matters only where that
token ends with the first text. -/
def SafeBoundary (first : List Char) (tokens : List Token) (second : List Char) : Prop :=
  ∀ token, tokens.getLast? = some token → token.location.endOffset = first.length →
    Unextended token.payload.kind (token.spanIn first) second

section Chains

variable {source : List Char} {file : Option String}

variable (file) in
theorem token_reading (config : LexConfig) {place front : Nat} {payload : Payload}
    {span : List Char} (within : place ≤ source.length) (ink : FirstInk source place front)
    (longest : IsLongestLexeme (source.drop front) payload.kind span)
    (spelled : payload.SpelledBy span) :
    (Lexer.atPlace source file config place).next =
      ⟨.token ⟨payload, .ofPlaces source file front (front + span.length)⟩, [],
        .atPlace source file config (front + span.length)⟩ := by
  have found := Lexer.next_reading_at file config within ink
  generalize (Lexer.atPlace source file config place).next = reading at found ⊢
  obtain ⟨token, delivered⟩ := reading_delivers found longest.lexeme longest.begins
  cases found with
  | @token other otherSpan otherLongest otherSpelled =>
      have same := longest_lexeme_unique otherLongest longest
      subst same
      have kinds : other.kind = payload.kind := lexeme_kind_unique otherLongest.lexeme
        otherLongest.begins longest.lexeme longest.begins
      rw [spelled_payload_unique kinds otherSpelled spelled]
  | nothing _ | unrecognized _ _ | brokenString _ _ _ | openStrict _ _ _ | openLenient _ _ _ =>
      contradiction

/-- A run follows a chain of tokens wherever it meets one. -/
theorem drain_along_chain (config : LexConfig) {place stop : Nat} {tokens : List Token}
    (chain : TokensFrom source file place tokens stop) (within : place ≤ source.length) :
    (Lexer.atPlace source file config place).drain =
      (Lexer.atPlace source file config stop).drain.prepend tokens := by
  induction chain with
  | none place => rfl
  | @token place start stop span token tokens ink longest spelled located later induction =>
      have reading := token_reading file config within ink longest spelled
      rw [← located] at reading
      rw [Lexer.drain_of_token (congrArg Reading.outcome reading), reading,
        induction (begins_within ink.within longest.begins)]
      rfl

end Chains

section Boundary

variable {first second : List Char} {file : Option String}

theorem first_ink_across {place front : Nat} (blank : FirstInk first place first.length)
    (ink : FirstInk (first ++ second) first.length front) :
    FirstInk (first ++ second) place front := by
  refine ⟨Nat.le_trans blank.reached ink.reached, ink.within, ?_, ink.ink⟩
  intro index reached before
  by_cases inside : index < first.length
  · rw [List.getElem?_append_left inside]
    exact blank.blanks index reached inside
  · exact ink.blanks index (by omega) before

/-- The tokens of a text are tokens of every longer one, the last if it is not extended. -/
theorem chain_before {place stop : Nat} {tokens : List Token} (within : place ≤ first.length)
    (chain : TokensFrom first file place tokens stop) (safe : SafeBoundary first tokens second) :
    TokensFrom (first ++ second) file place tokens stop := by
  have stopWithin := (tokens_from_ordered chain within).2
  apply agree_chain within chain (List.take_append_of_le_length stopWithin).symm
  intro last found
  obtain ⟨lastEnd, unextended⟩ := chain_last_token chain found
  -- The boundary matters to the last token only if it touches it.
  rcases Nat.lt_or_eq_of_le stopWithin with inside | rfl
  · apply unextended_same_head _ unextended
    rw [List.head?_drop, List.head?_drop, List.getElem?_append_left inside]
  · rw [List.drop_left]
    exact safe last found lastEnd

/-- A lexer that comes to the boundary is a fresh one over the second text, displaced. -/
theorem at_boundary (config : LexConfig) :
    Lexer.atPlace (first ++ second) file config first.length =
      (Lexer.atPlace second file config 0).behind first := by
  have inside := (List.prefix_append first second).length_le
  have column : columnAt (first ++ second) first.length = 1 + (lastLine first).length := by
    rw [column_by_last_line inside, List.take_left]
  have line : lineAt (first ++ second) first.length = 1 + first.count '\n' := by
    rw [lineAt, List.take_left]
  rw [Lexer.atPlace, List.drop_left, line, column]
  simp only [Lexer.behind, Position.behind, Lexer.atPlace, lineAt, columnAt, List.take_zero,
    List.count_nil, lastLineFeed?, List.drop_zero, Nat.add_zero, Nat.zero_add, if_true]

end Boundary

section Runs

variable {text first second : List Char} {file : Option String} {config : LexConfig}

/-- A strict run without an error passes its whole text. -/
theorem strict_run_chain {place : Nat} (within : place ≤ text.length)
    (clean : (Lexer.atPlace text file ⟨true⟩ place).drain.error = none) :
    ∃ stop, TokensFrom text file place (Lexer.atPlace text file ⟨true⟩ place).drain.tokens stop ∧
      FirstInk text stop text.length := by
  obtain ⟨stop, front, reading, chain, ink, found, _, _, ends⟩ := drain_at_place file ⟨true⟩ within
  refine ⟨stop, chain, ?_⟩
  cases outcome : reading.outcome with
  | token token =>
      rw [outcome] at ends
      contradiction
  | failed error =>
      rw [outcome, clean] at ends
      contradiction
  | finished =>
      rcases (finished_iff found).mp outcome with ended | ⟨_, _, lenient⟩
      · rw [ended] at ink
        exact ink
      · contradiction

theorem drain_append (config : LexConfig)
    (clean : (Lexer.atPlace first file ⟨true⟩ 0).drain.error = none)
    (safe : SafeBoundary first (Lexer.atPlace first file ⟨true⟩ 0).drain.tokens second) :
    (Lexer.atPlace (first ++ second) file config 0).drain =
      ((Lexer.atPlace second file config 0).drain.behind first).prepend
        (Lexer.atPlace first file ⟨true⟩ 0).drain.tokens := by
  obtain ⟨stop, chain, blank⟩ := strict_run_chain (Nat.zero_le _) clean
  have joined := chain_before (Nat.zero_le _) chain safe
  have inside := (List.prefix_append first second).length_le
  have ink := first_ink_exists (first ++ second) inside
  have across := first_ink_across blank ink
  -- What is left of the first text is blank, so reading goes on as if from the boundary.
  have same : (Lexer.atPlace (first ++ second) file config stop).next =
      (Lexer.atPlace (first ++ second) file config first.length).next := by
    rw [Lexer.next_at_first_ink (Nat.le_trans across.reached across.within) across,
      Lexer.next_at_first_ink inside ink]
  have firstLine : 1 ≤ (Lexer.atPlace second file config 0).position.line := Nat.le_add_right 1 _
  rw [drain_along_chain config joined (Nat.zero_le _), Lexer.drain_of_same_next same, at_boundary,
    Lexer.drain_behind first firstLine]

theorem run_to_end {place : Nat} (within : place ≤ text.length)
    (ink : FirstInk text place text.length) :
    (Lexer.atPlace text file config place).drain =
      ⟨[], none, [], .atPlace text file config text.length⟩ := by
  have reading := reading_at_end (Lexer.next_reading_at file config within ink) rfl
  rw [Lexer.drain_of_finish (congrArg Reading.outcome reading), reading]

theorem blank_run (blank : ∀ character ∈ text, isBlank character = true) :
    (Lexer.atPlace text file config 0).drain =
      ⟨[], none, [], .atPlace text file config text.length⟩ := by
  apply run_to_end (Nat.zero_le _)
  have split : text.drop 0 = text ++ [] := by simp
  have ink := first_ink_of_split split (Nat.zero_le _) blank nofun
  rwa [Nat.zero_add] at ink

theorem blank_extends_nothing {kind : TokenKind} {span : List Char} (nonempty : text ≠ [])
    (blank : ∀ character ∈ text, isBlank character = true) : Unextended kind span text := by
  obtain ⟨first, rest, rfl⟩ := List.exists_cons_of_ne_nil nonempty
  have here := blank first List.mem_cons_self
  cases kind with
  | name =>
      rintro next head ⟨ink, _⟩
      cases head
      rw [here] at ink
      contradiction
  | number =>
      intro next head
      cases head
      refine ⟨blank_not_digit here, ?_⟩
      rintro rfl
      exact absurd here (by decide)
  | string | symbol => trivial

/-- Blanks behind a text change nothing of its run but the end. -/
theorem run_before_blanks (nonempty : second ≠ [])
    (blank : ∀ character ∈ second, isBlank character = true)
    (clean : (Lexer.atPlace first file ⟨true⟩ 0).drain.error = none) :
    (Lexer.atPlace (first ++ second) file ⟨true⟩ 0).drain.error = none ∧
      (Lexer.atPlace (first ++ second) file ⟨true⟩ 0).drain.tokens =
        (Lexer.atPlace first file ⟨true⟩ 0).drain.tokens := by
  have safe : SafeBoundary first (Lexer.atPlace first file ⟨true⟩ 0).drain.tokens second :=
    fun _ _ _ => blank_extends_nothing nonempty blank
  rw [drain_append ⟨true⟩ clean safe, blank_run blank]
  exact ⟨rfl, List.append_nil _⟩

/-- Behind blanks every boundary is safe, since no token ends there. -/
theorem safe_behind_blanks {blanks : List Char} (nonempty : blanks ≠ [])
    (clean : (Lexer.atPlace first file ⟨true⟩ 0).drain.error = none) :
    SafeBoundary (first ++ blanks) (Lexer.atPlace first file ⟨true⟩ 0).drain.tokens second := by
  obtain ⟨stop, chain, blank⟩ := strict_run_chain (Nat.zero_le _) clean
  intro token last ends
  obtain ⟨start, span, _, before, _, _, located⟩ :=
    chain_member chain (Nat.zero_le _) (List.mem_of_getLast? last)
  have positive := List.length_pos_iff.mpr nonempty
  have reached := blank.reached
  rw [located, List.length_append] at ends
  simp only [Location.ofPlaces] at ends
  omega

end Runs

/-- Lexing is compositional. A text that a strict lexer reads without an error may stand before
any other: where the boundary is safe the run over both is the one run and then the other,
displaced. Blanks between the texts make every boundary safe, and blanks before a text only
displace its run. -/
theorem tokenize_append (first second : String) (file : Option String) (config : LexConfig)
    (clean : (tokenize first file ⟨true⟩).error = none) :
    let left := tokenize first file ⟨true⟩
    let right := tokenize second file config
    (SafeBoundary first.toList left.tokens second.toList →
      tokenize (first ++ second) file config =
        (right.behind first.toList).prepend left.tokens) ∧
    (∀ blanks : String, blanks ≠ "" → (∀ character ∈ blanks.toList, isBlank character = true) →
      tokenize (first ++ blanks ++ second) file config =
        (right.behind (first ++ blanks).toList).prepend left.tokens) ∧
    (∀ blanks : String, (∀ character ∈ blanks.toList, isBlank character = true) →
      tokenize (blanks ++ second) file config = right.behind blanks.toList) := by
  intro left right
  change (Lexer.atPlace first.toList file ⟨true⟩ 0).drain.error = none at clean
  refine ⟨?_, ?_, ?_⟩
  · intro safe
    have joined := drain_append config clean safe
    rw [← String.toList_append] at joined
    exact joined
  · intro blanks nonempty blank
    have present : blanks.toList ≠ [] := fun none => nonempty (String.toList_eq_nil_iff.mp none)
    obtain ⟨stillClean, tokens⟩ := run_before_blanks present blank clean
    have safe : SafeBoundary (first.toList ++ blanks.toList) left.tokens second.toList :=
      safe_behind_blanks present clean
    change SafeBoundary _ (Lexer.atPlace first.toList file ⟨true⟩ 0).drain.tokens _ at safe
    rw [← tokens] at safe
    have joined := drain_append config stillClean safe
    rw [tokens, ← String.toList_append, ← String.toList_append] at joined
    exact joined
  · intro blanks blank
    have run : (Lexer.atPlace blanks.toList file ⟨true⟩ 0).drain =
        ⟨[], none, [], .atPlace blanks.toList file ⟨true⟩ blanks.toList.length⟩ := blank_run blank
    have blankClean : (Lexer.atPlace blanks.toList file ⟨true⟩ 0).drain.error = none := by
      rw [run]
    have safe : SafeBoundary blanks.toList
        (Lexer.atPlace blanks.toList file ⟨true⟩ 0).drain.tokens second.toList := by
      rw [run]
      nofun
    have joined := drain_append config blankClean safe
    rw [run, ← String.toList_append] at joined
    exact joined

/-- A point behind a number that has its point already is a text of its own. -/
theorem second_point_is_apart :
    let left := tokenize "x\n= 3." (some "prog") ⟨true⟩
    left.error = none ∧ SafeBoundary "x\n= 3.".toList left.tokens ".".toList ∧
      tokenize ("x\n= 3." ++ ".") (some "prog") ⟨false⟩ =
        ((tokenize "." (some "prog") ⟨false⟩).behind "x\n= 3.".toList).prepend left.tokens := by
  intro left
  have clean : left.error = none := by decide +kernel
  have number : left.tokens.getLast?.map (fun token =>
      (token.payload.kind, token.spanIn "x\n= 3.".toList)) = some (.number, ['3', '.']) := by
    decide +kernel
  have safe : SafeBoundary "x\n= 3.".toList left.tokens ".".toList := by
    intro token last _
    rw [last, Option.map_some] at number
    obtain ⟨kind, span⟩ := Prod.mk.inj (Option.some.inj number)
    rw [kind, span]
    intro next head
    cases head
    decide
  exact ⟨clean, safe, (tokenize_append "x\n= 3." "." (some "prog") ⟨false⟩ clean).1 safe⟩

end ExprLexer
