import ExprLexer.Proofs.Boundaries
import ExprLexer.Proofs.Coverage

/-!
Texts that agree up to a bound. What a reading finds before the bound is found in the other text
too, and so are the places that it tells. A chain of tokens is a chain of every text that agrees
with it up to the end of the chain and goes on with nothing that extends the last token.
-/

namespace ExprLexer

open Text

section Texts

variable {left right : List Char} {bound : Nat}

theorem agree_before {place : Nat} (same : left.take bound = right.take bound)
    (before : place ≤ bound) : left.take place = right.take place := by
  rw [← Nat.min_eq_left before, ← List.take_take, same, List.take_take]

theorem agree_at {index : Nat} (same : left.take bound = right.take bound)
    (inside : index < bound) : left[index]? = right[index]? := by
  rw [← List.getElem?_take_of_lt inside, same, List.getElem?_take_of_lt inside]

theorem agree_within {place : Nat} (same : left.take bound = right.take bound)
    (before : place ≤ bound) (within : place ≤ left.length) : place ≤ right.length := by
  have lengths := congrArg List.length (agree_before same before)
  rw [List.length_take_of_le within, List.length_take] at lengths
  omega

theorem agree_slice {start stop : Nat} (same : left.take bound = right.take bound)
    (inside : stop ≤ bound) : slice left start stop = slice right start stop := by
  rw [slice, slice, agree_before same inside]

theorem agree_places {file : Option String} {start : Nat}
    (same : left.take bound = right.take bound) (before : start ≤ bound) (stop : Nat) :
    Location.ofPlaces left file start stop = Location.ofPlaces right file start stop := by
  simp only [Location.ofPlaces, lineAt, columnAt, agree_before same before]

theorem agree_first_ink {place front : Nat} (same : left.take bound = right.take bound)
    (inside : front < bound) (ink : FirstInk left place front) : FirstInk right place front := by
  refine ⟨ink.reached, agree_within same (Nat.le_of_lt inside) ink.within, ?_, ?_⟩
  · intro index reached before
    rw [← agree_at same (Nat.lt_trans before inside)]
    exact ink.blanks index reached before
  · intro character here
    rw [← agree_at same inside] at here
    exact ink.ink character here

theorem agree_first_stop {place stop : Nat} (same : left.take bound = right.take bound)
    (inside : stop < bound) (first : FirstStop left place stop) : FirstStop right place stop := by
  refine ⟨first.behind, ?_, ?_⟩
  · rw [← agree_at same inside]
    exact first.stands
  · intro index behind before
    rw [← agree_at same (Nat.lt_trans before inside)]
    exact first.clear index behind before

theorem unextended_behind {kind : TokenKind} {span : List Char} {start : Nat}
    (longest : IsLongestLexeme (left.drop start) kind span) :
    Unextended kind span (left.drop (start + span.length)) := by
  obtain ⟨rest, whole⟩ := longest.begins
  have behind : left.drop (start + span.length) = rest := by
    rw [← List.drop_drop, ← whole, List.drop_left]
  rw [behind]
  apply longest_lexeme_unextended
  rw [whole]
  exact longest

/-- A lexeme that is the longest in one text is the longest in the other, if nothing extends it
there. -/
theorem agree_longest {kind : TokenKind} {span : List Char} {start : Nat}
    (same : left.take bound = right.take bound) (inside : start + span.length ≤ bound)
    (stops : Unextended kind span (right.drop (start + span.length)))
    (longest : IsLongestLexeme (left.drop start) kind span) :
    IsLongestLexeme (right.drop start) kind span := by
  have spanned : slice right start (start + span.length) = span := by
    rw [← agree_slice same inside, slice_of_prefix longest.begins]
  rw [slice_then_rest right (Nat.le_add_right start span.length), spanned]
  exact unextended_lexeme_longest longest.lexeme stops

end Texts

section Chains

variable {left right : List Char} {file : Option String} {place stop : Nat} {tokens : List Token}

theorem chain_standing (chain : TokensFrom left file place tokens place) : tokens = [] := by
  cases chain with
  | none _ => rfl
  | @token _ start _ span _ _ ink longest _ _ later =>
      have positive := lexeme_length_positive longest.lexeme
      have reached := ink.reached
      have reaches := (tokens_from_ordered later (begins_within ink.within longest.begins)).1
      omega

/-- The last token of a chain ends where the chain does, and what follows does not extend it. -/
theorem chain_last_token {last : Token} (chain : TokensFrom left file place tokens stop)
    (found : tokens.getLast? = some last) :
    last.location.endOffset = stop ∧
      Unextended last.payload.kind (last.spanIn left) (left.drop stop) := by
  induction chain with
  | none place => contradiction
  | token ink longest spelled located later induction =>
      cases later with
      | none _ =>
          rw [List.getLast?_singleton] at found
          cases found
          rw [token_span longest located, located]
          exact ⟨rfl, unextended_behind longest⟩
      | token _ _ _ _ _ =>
          rw [List.getLast?_cons_cons] at found
          exact induction found

theorem agree_chain (within : place ≤ left.length) (chain : TokensFrom left file place tokens stop)
    (same : left.take stop = right.take stop)
    (stops : ∀ last, tokens.getLast? = some last →
      Unextended last.payload.kind (last.spanIn left) (right.drop stop)) :
    TokensFrom right file place tokens stop := by
  induction chain with
  | none place => exact .none place
  | @token place start stop span token tokens ink longest spelled located later induction =>
      have positive := lexeme_length_positive longest.lexeme
      have laterWithin := begins_within ink.within longest.begins
      have reaches := (tokens_from_ordered later laterWithin).1
      -- Behind any token but the last, the other text goes on with the same character.
      have unextended : Unextended token.payload.kind span (right.drop (start + span.length)) := by
        rcases Nat.lt_or_eq_of_le reaches with inside | ended
        · apply unextended_same_head _ (unextended_behind longest)
          rw [List.head?_drop, List.head?_drop]
          exact agree_at same inside
        · subst ended
          obtain rfl := chain_standing later
          have last := stops token rfl
          rw [token_span longest located] at last
          exact last
      apply TokensFrom.token (agree_first_ink same (by omega) ink)
        (agree_longest same reaches unextended longest) spelled
      · rw [located, agree_places same (by omega)]
      · apply induction laterWithin same
        intro last found
        apply stops last
        rw [List.getLast?_cons, found]
        rfl

end Chains

end ExprLexer
