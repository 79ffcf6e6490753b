import ExprLexer.Proofs.Endings
import ExprLexer.Proofs.Runs

/-!
Tokens cover their source. The spans of the tokens of a run and the gaps before them, put together
in turn, are the text again up to a last gap. Gaps are told by the offsets of the tokens alone, so
a character that was dropped or consumed twice would show in one of them.
-/

namespace ExprLexer

open Text

def Token.spanIn (text : List Char) (token : Token) : List Char :=
  slice text token.location.offset.toNat token.location.endOffset.toNat

def gapsBefore (text : List Char) : Nat → List Token → List (List Char)
  | _, [] => []
  | place, token :: tokens =>
      slice text place token.location.offset.toNat ::
        gapsBefore text token.location.endOffset.toNat tokens

def lastStop : Nat → List Token → Nat
  | place, [] => place
  | _, token :: tokens => lastStop token.location.endOffset.toNat tokens

def lastGap (text : List Char) (tokens : List Token) : List Char :=
  text.drop (lastStop 0 tokens)

def interleave (gaps spans : List (List Char)) : List Char :=
  (List.zipWith (· ++ ·) gaps spans).flatten

structure Tiles (text : List Char) (tokens : List Token) : Prop where
  whole : text = interleave (gapsBefore text 0 tokens) (tokens.map (·.spanIn text)) ++
    lastGap text tokens
  blank : ∀ gap ∈ gapsBefore text 0 tokens, ∀ character ∈ gap, isBlank character = true
  nonempty : ∀ token ∈ tokens, token.spanIn text ≠ []
  spelled : ∀ token ∈ tokens, token.payload.SpelledBy (token.spanIn text)
  inside : ∀ token ∈ tokens, 0 ≤ token.location.offset ∧
    token.location.offset < token.location.endOffset ∧
    token.location.endOffset ≤ text.length
  ascending : tokens.Pairwise fun earlier later =>
    earlier.location.endOffset ≤ later.location.offset

namespace Text

theorem slice_then_rest (text : List Char) {start stop : Nat} (ordered : start ≤ stop) :
    text.drop start = slice text start stop ++ text.drop stop := by
  rw [slice, List.drop_take]
  conv => rhs; arg 2; rw [← Nat.add_sub_cancel' ordered, ← List.drop_drop]
  exact (List.take_append_drop _ _).symm

theorem slice_of_take (text : List Char) {start stop bound : Nat} (inside : stop ≤ bound) :
    slice (text.take bound) start stop = slice text start stop := by
  rw [slice, slice, List.take_take, Nat.min_eq_left inside]

theorem slice_of_prefix {text span : List Char} {start : Nat} (begins : span <+: text.drop start) :
    slice text start (start + span.length) = span := by
  rw [slice, List.drop_take, Nat.add_sub_cancel_left]
  exact (List.prefix_iff_eq_take.mp begins).symm

theorem blank_slice {text : List Char} {place front : Nat} (ink : FirstInk text place front) :
    ∀ character ∈ slice text place front, isBlank character = true := by
  intro character member
  rw [slice, List.drop_take] at member
  obtain ⟨index, found⟩ := List.mem_iff_getElem?.mp member
  obtain ⟨bound, _⟩ := List.getElem?_eq_some_iff.mp found
  rw [List.length_take] at bound
  have inside : index < front - place := by omega
  rw [List.getElem?_take_of_lt inside, List.getElem?_drop] at found
  have before : place + index < front := by
    have reached := ink.reached
    omega
  obtain ⟨other, here, blank⟩ := ink.blanks (place + index) (Nat.le_add_right _ _) before
  rw [Option.some.inj (found.symm.trans here)]
  exact blank

end Text

section Chains

variable {source : List Char} {file : Option String} {place stop : Nat} {tokens : List Token}

theorem offset_of_places (start finish : Nat) :
    (Location.ofPlaces source file start finish).offset.toNat = start := Int.toNat_natCast start

theorem end_of_places (start finish : Nat) :
    (Location.ofPlaces source file start finish).endOffset.toNat = finish :=
  Int.toNat_natCast finish

theorem chain_last_stop (chain : TokensFrom source file place tokens stop) :
    lastStop place tokens = stop := by
  induction chain with
  | none place => rfl
  | token _ _ _ located _ induction =>
      rw [lastStop, located, end_of_places]
      exact induction

theorem token_span {start : Nat} {span : List Char} {token : Token}
    (longest : IsLongestLexeme (source.drop start) token.payload.kind span)
    (located : token.location = .ofPlaces source file start (start + span.length)) :
    token.spanIn source = span := by
  rw [Token.spanIn, located, offset_of_places, end_of_places]
  exact slice_of_prefix longest.begins

theorem span_in_take {start bound : Nat} {span : List Char} {token : Token}
    (longest : IsLongestLexeme (source.drop start) token.payload.kind span)
    (located : token.location = .ofPlaces source file start (start + span.length))
    (inside : start + span.length ≤ bound) : token.spanIn (source.take bound) = span := by
  rw [Token.spanIn, located, offset_of_places, end_of_places, slice_of_take source inside]
  exact slice_of_prefix longest.begins

theorem chain_whole {bound : Nat} (chain : TokensFrom source file place tokens stop)
    (within : place ≤ source.length) (inside : stop ≤ bound) :
    (source.take bound).drop place =
      interleave (gapsBefore (source.take bound) place tokens)
          (tokens.map (·.spanIn (source.take bound))) ++
        (source.take bound).drop stop := by
  induction chain with
  | none place => rfl
  | @token place start stop span token tokens ink longest spelled located later induction =>
      have laterWithin := begins_within ink.within longest.begins
      have reaches := (tokens_from_ordered later laterWithin).1
      have covered := span_in_take longest located (by omega : start + span.length ≤ bound)
      have spanned : slice (source.take bound) start (start + span.length) = span := by
        rw [slice_of_take source (by omega), slice_of_prefix longest.begins]
      simp only [gapsBefore, List.map_cons, interleave, List.zipWith_cons_cons,
        List.flatten_cons, covered, located, offset_of_places, end_of_places]
      rw [slice_then_rest (source.take bound) ink.reached,
        slice_then_rest (source.take bound) (Nat.le_add_right start span.length), spanned,
        induction laterWithin inside]
      simp only [interleave, List.append_assoc]

theorem chain_gaps_blank {bound : Nat} (chain : TokensFrom source file place tokens stop)
    (within : place ≤ source.length) (inside : stop ≤ bound) :
    ∀ gap ∈ gapsBefore (source.take bound) place tokens,
      ∀ character ∈ gap, isBlank character = true := by
  induction chain with
  | none place => simp [gapsBefore]
  | @token place start stop span token tokens ink longest _ located later induction =>
      have laterWithin := begins_within ink.within longest.begins
      have reaches := (tokens_from_ordered later laterWithin).1
      intro gap member
      rw [gapsBefore, located, offset_of_places, end_of_places, List.mem_cons] at member
      rcases member with rfl | member
      · rw [slice_of_take source (by omega)]
        exact blank_slice ink
      · exact induction laterWithin inside gap member

theorem chain_member {token : Token} (chain : TokensFrom source file place tokens stop)
    (within : place ≤ source.length) (member : token ∈ tokens) :
    ∃ start span, place ≤ start ∧ start + span.length ≤ stop ∧
      IsLongestLexeme (source.drop start) token.payload.kind span ∧
      token.payload.SpelledBy span ∧
      token.location = .ofPlaces source file start (start + span.length) := by
  induction chain with
  | none place => contradiction
  | @token place start stop span head tokens ink longest spelled located later induction =>
      have reached := ink.reached
      have laterWithin := begins_within ink.within longest.begins
      have reaches := (tokens_from_ordered later laterWithin).1
      rw [List.mem_cons] at member
      rcases member with rfl | member
      · exact ⟨start, span, reached, reaches, longest, spelled, located⟩
      · obtain ⟨other, otherSpan, behind, rest⟩ := induction laterWithin member
        exact ⟨other, otherSpan, by omega, rest⟩

theorem chain_ascending (chain : TokensFrom source file place tokens stop)
    (within : place ≤ source.length) :
    tokens.Pairwise fun earlier later =>
      earlier.location.endOffset ≤ later.location.offset := by
  induction chain with
  | none place => exact List.Pairwise.nil
  | @token place start stop span token tokens ink longest _ located later induction =>
      have laterWithin := begins_within ink.within longest.begins
      apply List.Pairwise.cons _ (induction laterWithin)
      intro other member
      obtain ⟨otherStart, _, behind, _, _, _, otherLocated⟩ :=
        chain_member later laterWithin member
      rw [located, otherLocated]
      exact Int.ofNat_le.mpr behind

/-- A chain from the front of the source tiles every part of it that the chain is inside of. -/
theorem chain_tiles {bound : Nat} (chain : TokensFrom source file 0 tokens stop)
    (inside : stop ≤ bound) (within : bound ≤ source.length) :
    Tiles (source.take bound) tokens ∧
      lastGap (source.take bound) tokens = slice source stop bound := by
  have gap : lastGap (source.take bound) tokens = (source.take bound).drop stop := by
    rw [lastGap, chain_last_stop chain]
  have covered : ∀ token ∈ tokens, ∃ start span, start + span.length ≤ bound ∧
      IsLongestLexeme (source.drop start) token.payload.kind span ∧
      token.payload.SpelledBy span ∧
      token.location = .ofPlaces source file start (start + span.length) := by
    intro token member
    obtain ⟨start, span, _, before, rest⟩ := chain_member chain (Nat.zero_le _) member
    exact ⟨start, span, by omega, rest⟩
  refine ⟨⟨?_, chain_gaps_blank chain (Nat.zero_le _) inside, ?_, ?_, ?_,
    chain_ascending chain (Nat.zero_le _)⟩, gap⟩
  · rw [gap]
    exact chain_whole chain (Nat.zero_le _) inside
  · intro token member
    obtain ⟨start, span, before, longest, _, located⟩ := covered token member
    rw [span_in_take longest located before]
    exact lexeme_nonempty longest.lexeme
  · intro token member
    obtain ⟨start, span, before, longest, spelled, located⟩ := covered token member
    rw [span_in_take longest located before]
    exact spelled
  · intro token member
    obtain ⟨start, span, before, longest, _, located⟩ := covered token member
    have positive := lexeme_length_positive longest.lexeme
    rw [located, List.length_take_of_le within]
    simp only [Location.ofPlaces]
    omega

/-- What a lenient lexer gives up: a quote and all that follows it to the end of the text. -/
theorem open_string_rest {front : Nat} (quote : source[front]? = some '"')
    (endless : NoStop source front) :
    ∃ body, source.drop front = '"' :: body ∧
      ∀ character ∈ body, character ≠ '"' ∧ character ≠ '\n' := by
  obtain ⟨bound, here⟩ := List.getElem?_eq_some_iff.mp quote
  exists source.drop (front + 1)
  constructor
  · rw [List.drop_eq_getElem_cons bound, here]
  · intro character member
    obtain ⟨index, found⟩ := List.mem_iff_getElem?.mp member
    rw [List.getElem?_drop] at found
    have clear := endless (front + 1 + index) (by omega)
    rw [found] at clear
    exact ⟨fun same => clear.1 (congrArg some same), fun same => clear.2 (congrArg some same)⟩

end Chains

/-- Nothing of a source is lost and nothing is doubled. Where a run comes to the end, its tokens
and the gaps are the whole source, and only a lenient lexer may give up more than blanks behind
the last token. Where it ends in an error they are all that was read before. -/
theorem tokens_tile_source (source : String) (file : Option String) (config : LexConfig) :
    let text := source.toList
    let run := tokenize source file config
    match run.error with
    | none =>
        Tiles text run.tokens ∧
          ((∀ character ∈ lastGap text run.tokens, isBlank character = true) ∨
            (config.strictStrings = false ∧
              ∃ blanks body, lastGap text run.tokens = blanks ++ '"' :: body ∧
                (∀ character ∈ blanks, isBlank character = true) ∧
                ∀ character ∈ body, character ≠ '"' ∧ character ≠ '\n'))
    | some _ =>
        let read := text.take run.lexer.position.offset
        run.lexer.position.offset ≤ text.length ∧ Tiles read run.tokens ∧
          ∀ character ∈ lastGap read run.tokens, isBlank character = true := by
  intro text run
  have within : 0 ≤ text.length := Nat.zero_le _
  obtain ⟨stop, front, reading, chain, ink, found, _, stays, ends⟩ :=
    drain_at_place file config within
  change run.lexer = reading.lexer at stays
  change TokensFrom text file 0 run.tokens stop at chain
  cases outcome : reading.outcome with
  | token token =>
      rw [outcome] at ends
      contradiction
  | finished =>
      rw [outcome] at ends
      change run.error = none at ends
      rw [ends]
      obtain ⟨tiled, gap⟩ :=
        chain_tiles chain (Nat.le_trans ink.reached ink.within) (Nat.le_refl text.length)
      rw [List.take_length] at tiled gap
      have split : lastGap text run.tokens = slice text stop front ++ text.drop front := by
        rw [gap, slice, List.take_length, slice_then_rest text ink.reached]
      apply And.intro tiled
      rcases (finished_iff found).mp outcome with ended | ⟨quote, endless, lenient⟩
      · left
        rw [split, ended, List.drop_length, List.append_nil, ← ended]
        exact blank_slice ink
      · right
        obtain ⟨body, rest, unbroken⟩ := open_string_rest quote endless
        refine ⟨lenient, slice text stop front, body, ?_, blank_slice ink, unbroken⟩
        rw [split, rest]
  | failed error =>
      rw [outcome] at ends
      change run.error = some error at ends
      rw [ends]
      have cursor : run.lexer.position.offset = front := by
        rw [stays, (failure_stays found outcome).1]
        rfl
      obtain ⟨tiled, gap⟩ := chain_tiles chain ink.reached ink.within
      rw [cursor]
      refine ⟨ink.within, tiled, ?_⟩
      rw [gap]
      exact blank_slice ink

end ExprLexer
