import ExprLexer.Proofs.Concatenation

/-!
Chains of tokens and the readings that deliver them. A chain is delivered token by token wherever
a lexer meets it, and readings that all deliver tokens make up a chain.
-/

namespace ExprLexer

open Text

section Readings

variable {source : List Char} {file : Option String} {place stop : Nat} {tokens : List Token}

theorem reading_along_chain (config : LexConfig)
    (chain : TokensFrom source file place tokens stop) (within : place ≤ source.length)
    {index : Nat} (inside : index < tokens.length) :
    ((Lexer.atPlace source file config place).afterReads index).next =
      ⟨.token tokens[index], [],
        .atPlace source file config (lastStop place (tokens.take (index + 1)))⟩ := by
  induction chain generalizing index with
  | none place => contradiction
  | @token place start stop span token tokens ink longest spelled located later induction =>
      have reading := token_reading file config within ink longest spelled
      rw [← located] at reading
      have ended : token.location.endOffset.toNat = start + span.length := by
        rw [located, end_of_places]
      cases index with
      | zero =>
          rw [Lexer.afterReads, reading, List.take_succ_cons, lastStop, ended]
          rfl
      | succ index =>
          have laterWithin := begins_within ink.within longest.begins
          have laterInside : index < tokens.length := Nat.lt_of_succ_lt_succ inside
          rw [← Lexer.after_reads_next, reading, List.take_succ_cons, lastStop, ended]
          exact induction laterWithin laterInside

theorem lexer_behind_chain (config : LexConfig)
    (chain : TokensFrom source file place tokens stop) (within : place ≤ source.length) :
    (Lexer.atPlace source file config place).afterReads tokens.length =
      .atPlace source file config stop := by
  induction chain with
  | none place => rfl
  | token ink longest spelled located later induction =>
      have reading := token_reading file config within ink longest spelled
      rw [List.length_cons, ← Lexer.after_reads_next, reading]
      exact induction (begins_within ink.within longest.begins)

theorem delivers_of_going {outcome : Outcome} (going : Iteration.isLast outcome = false) :
    ∃ token, outcome = .token token := by
  cases outcome with
  | token token => exact ⟨token, rfl⟩
  | finished | failed _ => contradiction

theorem chain_of_deliveries (file : Option String) (config : LexConfig) {place : Nat}
    (within : place ≤ source.length) {count : Nat}
    (delivering : ∀ earlier, earlier < count → ∃ token,
      ((Lexer.atPlace source file config place).afterReads earlier).next.outcome =
        .token token) :
    ∃ tokens stop, tokens.length = count ∧ TokensFrom source file place tokens stop := by
  induction count generalizing place with
  | zero => exact ⟨[], place, rfl, .none place⟩
  | succ count induction =>
      obtain ⟨token, delivered⟩ := delivering 0 (Nat.zero_lt_succ count)
      have ink := first_ink_exists source within
      have found := Lexer.next_reading_at file config within ink
      obtain ⟨span, longest, spelled, located, _, moved⟩ := delivered_token found delivered
      have laterDelivering : ∀ earlier, earlier < count → ∃ token,
          ((Lexer.atPlace source file config
            (place + ((source.drop place).takeWhile isBlank).length + span.length)).afterReads
              earlier).next.outcome = .token token := by
        intro earlier before
        rw [← moved, Lexer.after_reads_next]
        exact delivering (earlier + 1) (Nat.succ_lt_succ before)
      obtain ⟨tokens, stop, counted, chain⟩ :=
        induction (begins_within ink.within longest.begins) laterDelivering
      exact ⟨token :: tokens, stop, congrArg Nat.succ counted,
        .token ink longest spelled located chain⟩

theorem chain_split {first second : List Token}
    (chain : TokensFrom source file place (first ++ second) stop) :
    ∃ between, TokensFrom source file place first between ∧
      TokensFrom source file between second stop := by
  induction first generalizing place with
  | nil => exact ⟨place, .none place, chain⟩
  | cons token first induction =>
      cases chain with
      | token ink longest spelled located later =>
          obtain ⟨between, left, right⟩ := induction later
          exact ⟨between, .token ink longest spelled located left, right⟩

end Readings

end ExprLexer
