import ExprLexer.Proofs.Deliveries

/-!
Lookahead. What a lexer has answered so far depends on the text that it has passed and on one
character more, although it looks through the whole text for the end of a string. Two texts that
agree on so much are read alike: token by token, and up to an error that a character in sight
causes. Only an end that is missed at the end of the text is not of this kind.
-/

namespace ExprLexer

open Text

structure Reading.Alike (left right : Reading) : Prop where
  outcome : left.outcome = right.outcome
  events : left.events = right.events
  position : left.lexer.position = right.lexer.position

section Agreement

variable {left right : List Char} {file : Option String} {config : LexConfig}

theorem agree_position {bound place : Nat} (same : left.take bound = right.take bound)
    (before : place ≤ bound) :
    (Lexer.atPlace left file config place).position =
      (Lexer.atPlace right file config place).position := by
  simp only [Lexer.atPlace, lineAt, columnAt, agree_before same before]

theorem last_stop_within {place stop : Nat} {tokens : List Token}
    (chain : TokensFrom left file place tokens stop) (within : place ≤ left.length) (count : Nat) :
    lastStop place (tokens.take count) ≤ stop := by
  rw [← List.take_append_drop count tokens] at chain
  obtain ⟨between, earlier, later⟩ := chain_split chain
  have betweenWithin := (tokens_from_ordered earlier within).2
  rw [chain_last_stop earlier]
  exact (tokens_from_ordered later betweenWithin).1

theorem agree_delivered {stop : Nat} {tokens : List Token}
    (chain : TokensFrom left file 0 tokens stop)
    (same : left.take (stop + 1) = right.take (stop + 1)) :
    TokensFrom right file 0 tokens stop := by
  apply agree_chain (Nat.zero_le _) chain (agree_before same (Nat.le_succ stop))
  intro last found
  apply unextended_same_head _ (chain_last_token chain found).2
  rw [List.head?_drop, List.head?_drop]
  exact agree_at same (Nat.lt_succ_self stop)

theorem deliveries_agree {stop index : Nat} {tokens : List Token} (config : LexConfig)
    (chain : TokensFrom left file 0 tokens stop)
    (same : left.take (stop + 1) = right.take (stop + 1)) (inside : index < tokens.length) :
    ((Lexer.atPlace left file config 0).afterReads index).next.Alike
      ((Lexer.atPlace right file config 0).afterReads index).next := by
  have reached := last_stop_within chain (Nat.zero_le _) (index + 1)
  rw [reading_along_chain config chain (Nat.zero_le _) inside,
    reading_along_chain config (agree_delivered chain same) (Nat.zero_le _) inside]
  exact ⟨rfl, rfl, agree_position same (Nat.le_succ_of_le reached)⟩

theorem agree_error {fault : LexFault} {bound place : Nat}
    (same : left.take bound = right.take bound) (before : place ≤ bound) :
    LexError.ofPlace left file fault place = LexError.ofPlace right file fault place := by
  simp only [LexError.ofPlace, lineAt, columnAt, agree_before same before]

/-- An error that stands at a character is found alike in every text that goes so far. -/
theorem failure_agrees {place stop : Nat} {error : LexError} (within : place ≤ left.length)
    (failed : (Lexer.atPlace left file config place).next.outcome = .failed error)
    (offset : error.offset = some (stop : Int))
    (seen : (∃ shown, error.fault = .unrecognizedCharacter shown) ∨
      (error.fault = .unterminatedString ∧ left[stop]? = some '\n'))
    (same : left.take (stop + 1) = right.take (stop + 1)) :
    place ≤ stop ∧
      (Lexer.atPlace left file config place).next.Alike
        (Lexer.atPlace right file config place).next := by
  have ink := first_ink_exists left within
  have found := Lexer.next_reading_at file config within ink
  generalize place + ((left.drop place).takeWhile isBlank).length = front at ink found
  generalize (Lexer.atPlace left file config place).next = reading at failed found ⊢
  have reached := ink.reached
  cases found with
  | nothing _ | token _ _ | openLenient _ _ _ => contradiction
  | @unrecognized character here unclassed =>
      cases failed
      have standing : front = stop := Int.ofNat.inj (Option.some.inj offset)
      subst standing
      have otherInk := agree_first_ink same (Nat.lt_succ_self front) ink
      have otherWithin := agree_within same (by omega) within
      have otherFound := Lexer.next_reading_at file config otherWithin otherInk
      rw [agree_at same (Nat.lt_succ_self front)] at here
      rw [reading_at_other otherFound here unclassed]
      exact ⟨reached, congrArg Outcome.failed (agree_error same (Nat.le_succ front)), rfl,
        agree_position same (Nat.le_succ front)⟩
  | @brokenString broken quote first feed =>
      cases failed
      have standing : broken = stop := Int.ofNat.inj (Option.some.inj offset)
      subst standing
      have behind := first.behind
      have otherInk := agree_first_ink same (by omega) ink
      have otherWithin := agree_within same (by omega) within
      have otherFound := Lexer.next_reading_at file config otherWithin otherInk
      have otherFirst := agree_first_stop same (Nat.lt_succ_self broken) first
      rw [agree_at same (by omega)] at quote
      rw [agree_at same (Nat.lt_succ_self broken)] at feed
      rw [reading_at_break otherFound quote otherFirst feed]
      exact ⟨by omega, congrArg Outcome.failed (agree_error same (Nat.le_succ broken)), rfl,
        agree_position same (by omega)⟩
  | openStrict _ _ _ =>
      -- This error stands behind the last character, where there is no line feed.
      cases failed
      have standing : left.length = stop := Int.ofNat.inj (Option.some.inj offset)
      rcases seen with ⟨_, other⟩ | ⟨_, feed⟩
      · contradiction
      · rw [← standing, List.getElem?_length] at feed
        contradiction

end Agreement

/-- Answers depend only on the text that was passed and one character more. After any number of
tokens, another text that agrees so far has given the same tokens at the same places. If the next
reading fails at a character, another text that agrees up to that character fails alike, whatever
follows in either. -/
theorem readings_see_one_character_ahead (first second : String) (file : Option String)
    (config : LexConfig) (count : Nat)
    (delivering : ∀ earlier, earlier < count → ∃ token,
      ((Lexer.ofSource first file config).afterReads earlier).next.outcome = .token token) :
    let left := (Lexer.ofSource first file config).afterReads
    let right := (Lexer.ofSource second file config).afterReads
    let place := (left count).position.offset
    (first.toList.take (place + 1) = second.toList.take (place + 1) →
      ∀ earlier, earlier < count → (left earlier).next.Alike (right earlier).next) ∧
    (∀ error stop, (left count).next.outcome = .failed error →
      error.offset = some ((stop : Nat) : Int) →
      (∃ shown, error.fault = .unrecognizedCharacter shown) ∨
        (error.fault = .unterminatedString ∧ first.toList[stop]? = some '\n') →
      first.toList.take (stop + 1) = second.toList.take (stop + 1) →
        ∀ reached, reached ≤ count → (left reached).next.Alike (right reached).next) := by
  obtain ⟨tokens, ends, rfl, chain⟩ :=
    chain_of_deliveries file config (Nat.zero_le first.toList.length) delivering
  intro left right place
  have leftPlace : left tokens.length = .atPlace first.toList file config ends :=
    lexer_behind_chain config chain (Nat.zero_le _)
  have placed : place = ends := congrArg (·.position.offset) leftPlace
  have within := (tokens_from_ordered chain (Nat.zero_le _)).2
  rw [placed]
  constructor
  · intro same earlier before
    exact deliveries_agree config chain same before
  · intro error stop failed offset seen same reached upTo
    rw [leftPlace] at failed
    obtain ⟨passed, alike⟩ := failure_agrees within failed offset seen same
    have shorter : first.toList.take (ends + 1) = second.toList.take (ends + 1) :=
      agree_before same (Nat.succ_le_succ passed)
    rcases Nat.lt_or_eq_of_le upTo with before | rfl
    · exact deliveries_agree config chain shorter before
    · have rightPlace : right tokens.length = .atPlace second.toList file config ends :=
        lexer_behind_chain config (agree_delivered chain shorter) (Nat.zero_le _)
      rw [leftPlace, rightPlace]
      exact alike

/-- What stands behind the line feed that breaks a string is of no account. -/
theorem broken_string_in_sight :
    let left := (Lexer.ofSource "x = 10 \"y\n\";" (some "prog") ⟨false⟩).afterReads
    let right := (Lexer.ofSource "x = 10 \"y\n#" (some "prog") ⟨false⟩).afterReads
    (∀ earlier, earlier < 3 → ∃ token, (left earlier).next.outcome = .token token) ∧
      ∀ reached, reached ≤ 3 → (left reached).next.Alike (right reached).next := by
  intro left right
  have going : ∀ earlier, earlier < 3 →
      Iteration.isLast (left earlier).next.outcome = false := by decide +kernel
  have delivering : ∀ earlier, earlier < 3 → ∃ token,
      (left earlier).next.outcome = .token token :=
    fun earlier before => delivers_of_going (going earlier before)
  have broken : (left 3).next.outcome =
      .failed ⟨.unterminatedString, some 1, some 10, some 9, some "prog"⟩ := by decide +kernel
  have answers := readings_see_one_character_ahead "x = 10 \"y\n\";" "x = 10 \"y\n#"
    (some "prog") ⟨false⟩ 3 delivering
  exact ⟨delivering, answers.2 _ 9 broken rfl (Or.inr ⟨rfl, by decide⟩) (by decide)⟩

end ExprLexer
