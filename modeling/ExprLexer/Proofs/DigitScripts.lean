import ExprLexer.Proofs.Lookahead
import ExprLexer.Proofs.NumberLiterals
import Mathlib.Data.List.Forall2

/-!
The script of a digit does not matter. Digits inside the numbers of a text may be put into other
scripts, each by one of the same value: both texts are read in lockstep, with the same answer and
the same place after every reading. What carries the induction is that wherever the texts still
differ, a number is yet to be delivered.
-/

namespace ExprLexer

namespace Text

/-- One character, or two digits of one value. -/
def SpelledAlike (character other : Char) : Prop :=
  character = other ∨ ∃ value, digitValue? character = some value ∧ digitValue? other = some value

section Characters

variable {character other : Char}

theorem spelled_alike_symm (alike : SpelledAlike character other) :
    SpelledAlike other character := by
  rcases alike with rfl | ⟨value, here, there⟩
  · exact Or.inl rfl
  · exact Or.inr ⟨value, there, here⟩

theorem spelled_alike_value (alike : SpelledAlike character other) :
    digitValue? character = digitValue? other := by
  rcases alike with rfl | ⟨value, here, there⟩
  · rfl
  · rw [here, there]

theorem spelled_alike_digit (alike : SpelledAlike character other) :
    isDecimalDigit character = isDecimalDigit other :=
  congrArg Option.isSome (spelled_alike_value alike)

/-- Only a digit has another spelling. -/
theorem spelled_alike_same (alike : SpelledAlike character other)
    (noDigit : isDecimalDigit character = false) : character = other := by
  rcases alike with same | ⟨value, here, _⟩
  · exact same
  · rw [isDecimalDigit, here] at noDigit
    contradiction

end Characters

section Texts

variable {left right : List Char} (alike : List.Forall₂ SpelledAlike left right)

include alike

theorem texts_alike_symm : List.Forall₂ SpelledAlike right left := by
  apply List.Forall₂.flip
  exact alike.imp fun _ _ => spelled_alike_symm

theorem stands_alike {index : Nat} {character : Char} (here : left[index]? = some character) :
    ∃ other, right[index]? = some other ∧ SpelledAlike character other := by
  obtain ⟨bound, rfl⟩ := List.getElem?_eq_some_iff.mp here
  have otherBound : index < right.length := alike.length_eq ▸ bound
  exact ⟨right[index], List.getElem?_eq_getElem otherBound, alike.get bound otherBound⟩

theorem stands_in_both {index : Nat} {character : Char}
    (noDigit : isDecimalDigit character = false) :
    left[index]? = some character ↔ right[index]? = some character := by
  constructor
  · intro here
    obtain ⟨other, there, spelled⟩ := stands_alike alike here
    rw [spelled_alike_same spelled noDigit]
    exact there
  · intro there
    obtain ⟨other, here, spelled⟩ := stands_alike (texts_alike_symm alike) there
    rw [spelled_alike_same spelled noDigit]
    exact here

theorem same_line_feeds :
    left.count '\n' = right.count '\n' ∧ lastLineFeed? left = lastLineFeed? right := by
  induction alike with
  | nil => exact ⟨rfl, rfl⟩
  | @cons character other _ _ spelled _ induction =>
      have feed : character = '\n' ↔ other = '\n' := by
        constructor
        · rintro rfl
          exact (spelled_alike_same spelled (by decide)).symm
        · rintro rfl
          exact (spelled_alike_same (spelled_alike_symm spelled) (by decide)).symm
      simp only [List.count_cons, lastLineFeed?, induction.1, induction.2, beq_iff_eq, feed,
        and_self]

theorem same_line_at (place : Nat) : lineAt left place = lineAt right place := by
  rw [lineAt, lineAt, (same_line_feeds (List.forall₂_take place alike)).1]

theorem same_column_at (place : Nat) : columnAt left place = columnAt right place := by
  rw [columnAt, columnAt, (same_line_feeds (List.forall₂_take place alike)).2]

theorem same_first_ink {place front : Nat} (ink : FirstInk left place front) :
    FirstInk right place front := by
  refine ⟨ink.reached, alike.length_eq ▸ ink.within, ?_, ?_⟩
  · intro index reached before
    obtain ⟨character, here, blank⟩ := ink.blanks index reached before
    exact ⟨character, (stands_in_both alike (blank_not_digit blank)).mp here, blank⟩
  · intro other there
    by_contra blank
    rw [Bool.not_eq_false] at blank
    have here := (stands_in_both alike (blank_not_digit blank)).mpr there
    rw [ink.ink other here] at blank
    contradiction

theorem same_quote (index : Nat) : left[index]? = some '"' ↔ right[index]? = some '"' :=
  stands_in_both alike (by decide)

theorem same_feed (index : Nat) : left[index]? = some '\n' ↔ right[index]? = some '\n' :=
  stands_in_both alike (by decide)

theorem same_first_stop {place stop : Nat} (first : FirstStop left place stop) :
    FirstStop right place stop := by
  refine ⟨first.behind, ?_, ?_⟩
  · rw [← same_quote alike, ← same_feed alike]
    exact first.stands
  · intro index behind before
    rw [ne_eq, ne_eq, ← same_quote alike, ← same_feed alike]
    exact first.clear index behind before

theorem same_no_stop {place : Nat} (endless : NoStop left place) : NoStop right place := by
  intro index behind
  rw [ne_eq, ne_eq, ← same_quote alike, ← same_feed alike]
  exact endless index behind

theorem same_decimal (decimal : ∀ digit ∈ left, isDecimalDigit digit = true) :
    ∀ digit ∈ right, isDecimalDigit digit = true := by
  induction alike with
  | nil => exact List.forall_mem_nil _
  | cons spelled _ induction =>
      have later := induction fun digit member => decimal digit (List.mem_cons_of_mem _ member)
      intro digit member
      cases member with
      | head =>
          rw [← spelled_alike_digit spelled]
          exact decimal _ List.mem_cons_self
      | tail _ member => exact later digit member

theorem same_whole_value : wholeValue left = wholeValue right := by
  induction alike with
  | nil => rfl
  | cons spelled later induction =>
      rw [wholeValue, wholeValue, spelled_alike_value spelled, later.length_eq, induction]

theorem same_fraction_value : fractionValue left = fractionValue right := by
  induction alike with
  | nil => rfl
  | cons spelled _ induction =>
      rw [fractionValue, fractionValue, spelled_alike_value spelled, induction]

end Texts

theorem alike_append {first second text : List Char}
    (alike : List.Forall₂ SpelledAlike (first ++ second) text) :
    ∃ before behind, text = before ++ behind ∧ List.Forall₂ SpelledAlike first before ∧
      List.Forall₂ SpelledAlike second behind := by
  have before := List.forall₂_take first.length alike
  have behind := List.forall₂_drop first.length alike
  rw [List.take_left] at before
  rw [List.drop_left] at behind
  exact ⟨_, _, (List.take_append_drop first.length text).symm, before, behind⟩

/-- Two stretches at one place of two texts that agree there are one. -/
theorem unmoved_stretch {left right first second later rest : List Char} {front : Nat}
    (split : left.drop front = first ++ later) (otherSplit : right.drop front = second ++ rest)
    (length : first.length = second.length)
    (unmoved : ∀ index, front ≤ index → index < front + first.length →
      left[index]? = right[index]?) : second = first := by
  apply List.ext_getElem?
  intro index
  by_cases inside : index < first.length
  · have unchanged := unmoved (front + index) (Nat.le_add_right _ _) (by omega)
    rw [← List.getElem?_drop, ← List.getElem?_drop, split, otherSplit,
      List.getElem?_append_left inside, List.getElem?_append_left (by omega)] at unchanged
    exact unchanged.symm
  · rw [List.getElem?_eq_none (by omega), List.getElem?_eq_none (by omega)]

end Text

open Text

section Lexemes

variable {span other later rest : List Char}

/-- A number in other scripts is a number that denotes the same, with a point if it has one. -/
theorem number_lexeme_alike (lexeme : IsLexeme .number span)
    (alike : List.Forall₂ SpelledAlike span other) :
    IsLexeme .number other ∧ literalValue span = literalValue other ∧
      ('.' ∈ span → '.' ∈ other) := by
  cases lexeme with
  | integer present decimal =>
      have otherPresent : other ≠ [] := by
        rintro rfl
        exact present (List.forall₂_nil_right_iff.mp alike)
      have otherDecimal := same_decimal alike decimal
      refine ⟨.integer otherPresent otherDecimal, ?_, ?_⟩
      · rw [literal_value_whole (digits_pointless decimal),
          literal_value_whole (digits_pointless otherDecimal), same_whole_value alike]
      · intro point
        exact absurd point (digits_pointless decimal)
  | pointed present wholeDecimal fractionDecimal =>
      obtain ⟨otherWhole, pointed, rfl, wholeAlike, pointedAlike⟩ := alike_append alike
      obtain ⟨point, otherFraction, pointAlike, fractionAlike, rfl⟩ :=
        List.forall₂_cons_left_iff.mp pointedAlike
      have same : '.' = point := spelled_alike_same pointAlike (by decide)
      subst same
      have otherPresent : otherWhole ≠ [] := by
        rintro rfl
        exact present (List.forall₂_nil_right_iff.mp wholeAlike)
      have otherDecimal := same_decimal wholeAlike wholeDecimal
      refine ⟨.pointed otherPresent otherDecimal (same_decimal fractionAlike fractionDecimal),
        ?_, ?_⟩
      · rw [literal_value_pointed (digits_pointless wholeDecimal),
          literal_value_pointed (digits_pointless otherDecimal), same_whole_value wholeAlike,
          same_fraction_value fractionAlike]
      · intro _
        exact List.mem_append_right _ List.mem_cons_self

theorem unextended_alike {kind : TokenKind} (alike : List.Forall₂ SpelledAlike later rest)
    (point : '.' ∈ span → '.' ∈ other) (stops : Unextended kind span later) :
    Unextended kind other rest := by
  have before : ∀ next, rest.head? = some next →
      ∃ same, later.head? = some same ∧ SpelledAlike next same := by
    intro next head
    rw [List.head?_eq_getElem?] at head ⊢
    exact stands_alike (texts_alike_symm alike) head
  cases kind with
  | name =>
      intro next head continues
      obtain ⟨same, sameHead, spelled⟩ := before next head
      rw [spelled_alike_same spelled continues.2.1] at continues
      exact stops same sameHead continues
  | number =>
      intro next head
      obtain ⟨same, sameHead, spelled⟩ := before next head
      obtain ⟨noDigit, pointed⟩ := stops same sameHead
      rw [← spelled_alike_digit spelled] at noDigit
      rw [← spelled_alike_same spelled noDigit] at pointed
      exact ⟨noDigit, fun isPoint => point (pointed isPoint)⟩
  | string | symbol => trivial

end Lexemes

namespace Lexer

/-- Whether a place is inside a number that a lexer delivers sooner or later. -/
def CoversNumber (lexer : Lexer) (index : Nat) : Prop :=
  ∃ count token, (lexer.afterReads count).next.outcome = .token token ∧
    token.payload.kind = .number ∧ token.location.offset ≤ index ∧
      index < token.location.endOffset

section Coverage

variable {lexer : Lexer} {index : Nat} {source : List Char} {file : Option String}
  {config : LexConfig} {place : Nat}

theorem covers_number_next (covers : lexer.CoversNumber index) :
    (∃ token, lexer.next.outcome = .token token ∧ token.payload.kind = .number ∧
      index < token.location.endOffset) ∨ lexer.next.lexer.CoversNumber index := by
  obtain ⟨count, token, delivered, number, reached, inside⟩ := covers
  cases count with
  | zero => exact Or.inl ⟨token, delivered, number, inside⟩
  | succ count =>
      rw [← after_reads_next] at delivered
      exact Or.inr ⟨count, token, delivered, number, reached, inside⟩

theorem after_reads_ahead (file : Option String) (config : LexConfig)
    (within : place ≤ source.length) (count : Nat) :
    ∃ later, place ≤ later ∧ later ≤ source.length ∧
      (atPlace source file config place).afterReads count =
        atPlace source file config later := by
  induction count with
  | zero => exact ⟨place, Nat.le_refl place, within, rfl⟩
  | succ count induction =>
      obtain ⟨later, reached, laterWithin, same⟩ := induction
      have ink := first_ink_exists source laterWithin
      have found := next_reading_at file config laterWithin ink
      obtain ⟨stop, behind, stopWithin, moved⟩ := reading_leaves_at_place found ink.within
      rw [afterReads, same]
      exact ⟨stop, Nat.le_trans reached (Nat.le_trans ink.reached behind), stopWithin, moved⟩

theorem covered_ahead (within : place ≤ source.length)
    (covers : (atPlace source file config place).CoversNumber index) : place ≤ index := by
  obtain ⟨count, token, delivered, _, reached, _⟩ := covers
  obtain ⟨later, behind, laterWithin, same⟩ := after_reads_ahead file config within count
  have ink := first_ink_exists source laterWithin
  have found := next_reading_at file config laterWithin ink
  rw [same] at delivered
  obtain ⟨_, _, _, located, _, _⟩ := delivered_token found delivered
  rw [located] at reached
  have front := Int.ofNat_le.mp reached
  exact Nat.le_trans behind (Nat.le_trans ink.reached front)

theorem next_moves_forward {later : Nat} (within : place ≤ source.length)
    (moved : (atPlace source file config place).next.lexer = atPlace source file config later) :
    place ≤ later := by
  obtain ⟨stop, behind, _, same⟩ := after_reads_ahead file config within 1
  have stops : later = stop := congrArg (·.position.offset) (moved.symm.trans same)
  rw [stops]
  exact behind

theorem token_ends_at_cursor {token : Token} (within : place ≤ source.length)
    (delivered : (atPlace source file config place).next.outcome = .token token) :
    token.location.endOffset = (atPlace source file config place).next.lexer.position.offset := by
  have found := next_reading_at file config within (first_ink_exists source within)
  obtain ⟨_, _, _, located, _, moved⟩ := delivered_token found delivered
  rw [located, moved]
  rfl

end Coverage

end Lexer

/-- Wherever two texts differ from a place on, a lexer over the first that has come to that place
is yet to deliver a number. -/
def DifferInNumbers (left right : List Char) (file : Option String) (config : LexConfig)
    (place : Nat) : Prop :=
  ∀ index, place ≤ index → left[index]? ≠ right[index]? →
    (Lexer.atPlace left file config place).CoversNumber index

/-- Up to the end of the next token the texts are the same unless it is a number, since whatever
comes later begins behind it. -/
theorem same_up_to_other_token {left right : List Char} {file : Option String}
    {config : LexConfig} {place stop : Nat} {token : Token} (within : stop ≤ left.length)
    (differ : DifferInNumbers left right file config place)
    (delivered : (Lexer.atPlace left file config place).next.outcome = .token token)
    (moved : (Lexer.atPlace left file config place).next.lexer = .atPlace left file config stop)
    (other : token.payload.kind ≠ .number) {index : Nat} (reached : place ≤ index)
    (before : index < stop) : left[index]? = right[index]? := by
  by_contra different
  have covers := differ index reached different
  rcases Lexer.covers_number_next covers with ⟨same, again, number, _⟩ | later
  · rw [delivered] at again
    cases again
    exact other number
  · rw [moved] at later
    exact absurd (Lexer.covered_ahead within later) (Nat.not_le.mpr before)

section Steps

variable {left right : List Char} {file : Option String} {config : LexConfig}
  (alike : List.Forall₂ SpelledAlike left right)

include alike

theorem same_position (place : Nat) :
    (Lexer.atPlace left file config place).position =
      (Lexer.atPlace right file config place).position := by
  simp only [Lexer.atPlace, same_line_at alike, same_column_at alike]

theorem same_error (fault : LexFault) (place : Nat) :
    LexError.ofPlace left file fault place = LexError.ofPlace right file fault place := by
  simp only [LexError.ofPlace, same_line_at alike, same_column_at alike]

theorem same_location (start stop : Nat) :
    Location.ofPlaces left file start stop = .ofPlaces right file start stop := by
  simp only [Location.ofPlaces, same_line_at alike, same_column_at alike]

/-- Where a longest lexeme stands in the one text, one of the same length stands in the other and
spells the same, if only numbers are spelled in other scripts. -/
theorem longest_lexeme_alike {front : Nat} {payload : Payload} {span : List Char}
    (longest : IsLongestLexeme (left.drop front) payload.kind span)
    (spelled : payload.SpelledBy span)
    (unmoved : payload.kind ≠ .number → ∀ index, front ≤ index →
      index < front + span.length → left[index]? = right[index]?) :
    ∃ other, other.length = span.length ∧
      IsLongestLexeme (right.drop front) payload.kind other ∧ payload.SpelledBy other := by
  obtain ⟨later, whole⟩ := longest.begins
  have dropped := List.forall₂_drop front alike
  rw [← whole] at dropped
  obtain ⟨other, rest, split, spanAlike, laterAlike⟩ := alike_append dropped
  have length := spanAlike.length_eq
  have stops : Unextended payload.kind span later := by
    apply longest_lexeme_unextended
    rw [whole]
    exact longest
  have respelled : IsLexeme payload.kind other ∧ payload.SpelledBy other ∧
      ('.' ∈ span → '.' ∈ other) := by
    have lexeme := longest.lexeme
    by_cases number : payload.kind = .number
    · cases payload with
      | number value =>
          obtain ⟨otherLexeme, denotes, point⟩ := number_lexeme_alike lexeme spanAlike
          exact ⟨otherLexeme, (read_by_value lexeme otherLexeme denotes).symm.trans spelled, point⟩
      | name _ | string _ | symbol _ => contradiction
    · have same := unmoved_stretch whole.symm split length (unmoved number)
      rw [same]
      exact ⟨lexeme, spelled, id⟩
  obtain ⟨otherLexeme, otherSpelled, point⟩ := respelled
  rw [split]
  exact ⟨other, length.symm,
    unextended_lexeme_longest otherLexeme (unextended_alike laterAlike point stops), otherSpelled⟩

theorem respelled_reading {place : Nat} (within : place ≤ left.length)
    (differ : DifferInNumbers left right file config place) :
    ∃ later, later ≤ left.length ∧
      (Lexer.atPlace left file config place).next.lexer = .atPlace left file config later ∧
      (Lexer.atPlace right file config place).next.lexer = .atPlace right file config later ∧
      (Lexer.atPlace left file config place).next.outcome =
        (Lexer.atPlace right file config place).next.outcome ∧
      (Lexer.atPlace left file config place).next.events =
        (Lexer.atPlace right file config place).next.events := by
  have ink := first_ink_exists left within
  have found := Lexer.next_reading_at file config within ink
  generalize place + ((left.drop place).takeWhile isBlank).length = front at ink found
  have otherWithin : place ≤ right.length := alike.length_eq ▸ within
  have otherInk := same_first_ink alike ink
  have otherFound := Lexer.next_reading_at file config otherWithin otherInk
  generalize reached : (Lexer.atPlace left file config place).next = reading at found ⊢
  cases found with
  | nothing ended =>
      rw [reading_at_end otherFound (ended.trans alike.length_eq)]
      exact ⟨front, ink.within, rfl, rfl, rfl, rfl⟩
  | @token payload span longest spelled =>
      have spanWithin := begins_within ink.within longest.begins
      have unmoved : payload.kind ≠ .number → ∀ index, front ≤ index →
          index < front + span.length → left[index]? = right[index]? := by
        intro other index behind before
        exact same_up_to_other_token spanWithin differ (congrArg Reading.outcome reached)
          (congrArg Reading.lexer reached) other (Nat.le_trans ink.reached behind) before
      obtain ⟨other, length, otherLongest, otherSpelled⟩ :=
        longest_lexeme_alike alike longest spelled unmoved
      rw [token_reading file config otherWithin otherInk otherLongest otherSpelled, length,
        same_location alike]
      exact ⟨front + span.length, spanWithin, rfl, rfl, rfl, rfl⟩
  | unrecognized here unclassed =>
      have noDigit := (CharClass.of_other_iff.mp unclassed).2.2.1
      have there := (stands_in_both alike noDigit).mp here
      rw [reading_at_other otherFound there unclassed, same_error alike]
      exact ⟨front, ink.within, rfl, rfl, rfl, rfl⟩
  | brokenString quote first feed =>
      have otherQuote := (same_quote alike front).mp quote
      have otherFeed := (same_feed alike _).mp feed
      rw [reading_at_break otherFound otherQuote (same_first_stop alike first) otherFeed,
        same_error alike]
      exact ⟨front, ink.within, rfl, rfl, rfl, rfl⟩
  | openStrict quote endless strict =>
      have otherQuote := (same_quote alike front).mp quote
      rw [reading_at_open_string otherFound otherQuote (same_no_stop alike endless),
        if_pos strict, ← alike.length_eq, same_error alike]
      exact ⟨front, ink.within, rfl, rfl, rfl, rfl⟩
  | openLenient quote endless lenient =>
      have otherQuote := (same_quote alike front).mp quote
      have noStrict : ¬config.strictStrings = true := by rw [lenient]; exact Bool.false_ne_true
      rw [reading_at_open_string otherFound otherQuote (same_no_stop alike endless),
        if_neg noStrict, same_line_at alike, same_column_at alike, ← alike.length_eq]
      exact ⟨left.length, Nat.le_refl _, rfl, rfl, rfl, rfl⟩

/-- In lockstep two texts go on differing only where numbers are yet to come. -/
theorem respelled_step {place : Nat} (within : place ≤ left.length)
    (differ : DifferInNumbers left right file config place) :
    (Lexer.atPlace left file config place).next.Alike
        (Lexer.atPlace right file config place).next ∧
      ∃ later, later ≤ left.length ∧ DifferInNumbers left right file config later ∧
        (Lexer.atPlace left file config place).next.lexer = .atPlace left file config later ∧
        (Lexer.atPlace right file config place).next.lexer = .atPlace right file config later := by
  obtain ⟨later, laterWithin, moved, otherMoved, outcome, events⟩ :=
    respelled_reading alike within differ
  have forward := Lexer.next_moves_forward within moved
  refine ⟨⟨outcome, events, ?_⟩, later, laterWithin, ?_, moved, otherMoved⟩
  · rw [moved, otherMoved]
    exact same_position alike later
  · intro index behind different
    have covers := differ index (Nat.le_trans forward behind) different
    rcases Lexer.covers_number_next covers with ⟨token, delivered, _, before⟩ | further
    · -- The token just delivered ends where the lexer is now.
      rw [Lexer.token_ends_at_cursor within delivered, moved] at before
      exact absurd (Int.ofNat_lt.mp before) (Nat.not_lt.mpr behind)
    · rw [← moved]
      exact further

theorem respelled_after_reads (differ : DifferInNumbers left right file config 0) (count : Nat) :
    ∃ place, place ≤ left.length ∧ DifferInNumbers left right file config place ∧
      (Lexer.atPlace left file config 0).afterReads count = .atPlace left file config place ∧
      (Lexer.atPlace right file config 0).afterReads count = .atPlace right file config place := by
  induction count with
  | zero => exact ⟨0, Nat.zero_le _, differ, rfl, rfl⟩
  | succ count induction =>
      obtain ⟨place, within, placeDiffer, same, otherSame⟩ := induction
      rw [Lexer.afterReads, Lexer.afterReads, same, otherSame]
      exact (respelled_step alike within placeDiffer).2

end Steps

/-- A text in which digits are put into other scripts, each by one of the same value, and only
where `Inside` holds of their places. -/
structure Respelled (Inside : Nat → Prop) (source respelled : List Char) : Prop where
  alike : List.Forall₂ SpelledAlike source respelled
  inside : ∀ index, source[index]? ≠ respelled[index]? → Inside index

/-- The script of the digits in numbers does not matter. If digits inside the numbers that a lexer
delivers are put into other scripts, every call of a lexer over the new text has the same answer,
reports the same and leaves the lexer at the same place. -/
theorem digit_scripts_do_not_matter {source respelled : String} {file : Option String}
    {config : LexConfig}
    (same : Respelled (Lexer.ofSource source file config).CoversNumber source.toList
      respelled.toList) (count : Nat) :
    let left := (Lexer.ofSource source file config).afterReads count
    let right := (Lexer.ofSource respelled file config).afterReads count
    left.position = right.position ∧ left.next.Alike right.next := by
  intro left right
  have differ : DifferInNumbers source.toList respelled.toList file config 0 :=
    fun index _ different => same.inside index different
  obtain ⟨place, within, placeDiffer, moved, otherMoved⟩ :=
    respelled_after_reads same.alike differ count
  change left = _ at moved
  change right = _ at otherMoved
  rw [moved, otherMoved]
  exact ⟨same_position same.alike place, (respelled_step same.alike within placeDiffer).1⟩

/-- Digits of three scripts behind a name, and the same in one script. -/
theorem mixed_scripts_read_as_one :
    Respelled (Lexer.ofSource "b٣4.५;" none ⟨true⟩).CoversNumber "b٣4.५;".toList
        "b34.5;".toList ∧
      ((Lexer.ofSource "b٣4.५;" none ⟨true⟩).afterReads 1).position =
        ((Lexer.ofSource "b34.5;" none ⟨true⟩).afterReads 1).position ∧
      ((Lexer.ofSource "b٣4.५;" none ⟨true⟩).afterReads 1).next.Alike
        ((Lexer.ofSource "b34.5;" none ⟨true⟩).afterReads 1).next := by
  have three : SpelledAlike '٣' '3' := Or.inr ⟨3, by decide, by decide⟩
  have five : SpelledAlike '५' '5' := Or.inr ⟨5, by decide, by decide⟩
  have delivered : ((Lexer.ofSource "b٣4.५;" none ⟨true⟩).afterReads 1).next.outcome =
      .token ⟨.number (.ofQuotient false 345 10 (by decide)), ⟨1, 2, 1, 5, none⟩⟩ := by
    decide +kernel
  have covered : ∀ index : Nat, 1 ≤ index → index < 5 →
      (Lexer.ofSource "b٣4.५;" none ⟨true⟩).CoversNumber index := by
    intro index reached before
    exact ⟨1, _, delivered, rfl, Int.ofNat_le.mpr reached, Int.ofNat_lt.mpr before⟩
  have same : Respelled (Lexer.ofSource "b٣4.५;" none ⟨true⟩).CoversNumber "b٣4.५;".toList
      "b34.5;".toList := by
    constructor
    · exact .cons (.inl rfl) (.cons three (.cons (.inl rfl) (.cons (.inl rfl) (.cons five
        (.cons (.inl rfl) .nil)))))
    · intro index different
      rcases index with _ | _ | _ | _ | _ | index
      · exact absurd rfl different
      · exact covered 1 (by decide) (by decide)
      · exact absurd rfl different
      · exact absurd rfl different
      · exact covered 4 (by decide) (by decide)
      · exact absurd rfl different
  exact ⟨same, digit_scripts_do_not_matter same 1⟩

end ExprLexer
