import ExprLexer.Proofs.LongestMatch

/-!
What may follow a lexeme. A lexeme is the longest one at its place exactly if the character behind
it cannot make it longer, so of all that follows a lexeme only one character matters to it.
-/

namespace ExprLexer

open Text

/-- What follows a lexeme does not extend it: no name character follows a name, and no digit
follows a number, nor a point where the number has none. -/
def Unextended (kind : TokenKind) (span later : List Char) : Prop :=
  match kind with
  | .name => ∀ next, later.head? = some next → ¬ContinuesName next
  | .number => ∀ next, later.head? = some next →
      isDecimalDigit next = false ∧ (next = '.' → '.' ∈ span)
  | .string => True
  | .symbol => True

section Extensions

variable {kind : TokenKind} {span later : List Char} {next : Char}

theorem unextended_same_head {other : List Char} (same : later.head? = other.head?)
    (stops : Unextended kind span later) : Unextended kind span other := by
  cases kind with
  | name | number =>
      intro next head
      exact stops next (same.trans head)
  | string | symbol => trivial

theorem nothing_extends : Unextended kind span [] := by
  cases kind with
  | name | number => exact nofun
  | string | symbol => trivial

theorem no_longer_lexeme (longest : IsLongestLexeme (span ++ later) kind span)
    (head : later.head? = some next) : ¬IsLexeme kind (span ++ [next]) := by
  intro longer
  have begins : span ++ [next] <+: span ++ later := by
    obtain ⟨rest, rfl⟩ := List.head?_eq_some_iff.mp head
    exact ⟨rest, List.append_assoc span [next] rest⟩
  have bound := longest.longest kind (span ++ [next]) longer begins
  rw [List.length_append, List.length_singleton] at bound
  omega

/-- Nothing extends a longest lexeme. -/
theorem longest_lexeme_unextended (longest : IsLongestLexeme (span ++ later) kind span) :
    Unextended kind span later := by
  have longer : ∀ next, later.head? = some next → ¬IsLexeme kind (span ++ [next]) :=
    fun next head => no_longer_lexeme longest head
  cases longest.lexeme with
  | name letter continued =>
      intro next head continues
      apply longer next head
      apply IsLexeme.name letter
      intro character member
      rcases List.mem_append.mp member with member | member
      · exact continued character member
      · rw [List.mem_singleton.mp member]
        exact continues
  | integer present decimal =>
      intro next head
      constructor
      · by_contra digit
        rw [Bool.not_eq_false] at digit
        apply longer next head
        apply IsLexeme.integer (List.append_ne_nil_of_left_ne_nil present [next])
        intro character member
        rcases List.mem_append.mp member with member | member
        · exact decimal character member
        · rw [List.mem_singleton.mp member]
          exact digit
      · rintro rfl
        have nothing : ∀ character ∈ ([] : List Char), isDecimalDigit character = true := by simp
        exact absurd (IsLexeme.pointed present decimal nothing) (longer '.' head)
  | @pointed whole fraction present wholeDecimal fractionDecimal =>
      intro next head
      constructor
      · by_contra digit
        rw [Bool.not_eq_false] at digit
        apply longer next head
        rw [List.append_assoc, List.cons_append]
        apply IsLexeme.pointed present wholeDecimal
        intro character member
        rcases List.mem_append.mp member with member | member
        · exact fractionDecimal character member
        · rw [List.mem_singleton.mp member]
          exact digit
      · intro _
        exact List.mem_append_right whole List.mem_cons_self
  | string _ => trivial
  | symbol _ => trivial

theorem name_lexeme_continued {first : Char} {more : List Char}
    (lexeme : IsLexeme .name (first :: more)) {character : Char} (member : character ∈ more) :
    ContinuesName character := by
  cases lexeme with
  | name _ continued => exact continued character member

theorem number_lexeme_characters (lexeme : IsLexeme .number span) {character : Char}
    (member : character ∈ span) : Numeral.InNumber character := by
  cases lexeme with
  | integer _ decimal => exact Numeral.digits_in_number decimal character member
  | pointed _ wholeDecimal fractionDecimal =>
      exact Numeral.pointed_in_number wholeDecimal fractionDecimal character member

theorem no_point_in_digits {digits : List Char}
    (decimal : ∀ character ∈ digits, isDecimalDigit character = true) :
    digits.count '.' = 0 := by
  apply List.count_eq_zero.mpr
  intro member
  exact absurd (decimal '.' member) (by decide)

theorem number_lexeme_point (lexeme : IsLexeme .number span) : span.count '.' ≤ 1 := by
  cases lexeme with
  | integer _ decimal => rw [no_point_in_digits decimal]; exact Nat.zero_le 1
  | pointed _ wholeDecimal fractionDecimal =>
      rw [List.count_append, List.count_cons_self, no_point_in_digits wholeDecimal,
        no_point_in_digits fractionDecimal]

theorem string_lexeme_alone {more : List Char} (left : IsLexeme .string span)
    (right : IsLexeme .string (span ++ next :: more)) : False := by
  generalize whole : span ++ next :: more = text at right
  cases left with
  | @string body unbroken =>
      cases right with
      | @string longBody longUnbroken =>
          have halt : Front.isStringChar '"' = false := by decide
          have run := (run_before_stop (next :: more) (fun character member =>
            Front.is_string_char_iff.mpr (unbroken character member)) halt).2
          have longRun := (run_before_stop [] (fun character member =>
            Front.is_string_char_iff.mpr (longUnbroken character member)) halt).2
          have same : body ++ '"' :: next :: more = longBody ++ ['"'] := by
            simpa using whole
          rw [same, longRun] at run
          simp at run

/-- Of two lexemes of a kind, one of them longer, the shorter is extended by what follows it. -/
theorem longer_lexeme_extends {more : List Char} (lexeme : IsLexeme kind span)
    (longer : IsLexeme kind (span ++ next :: more)) (head : later.head? = some next) :
    ¬Unextended kind span later := by
  intro stops
  cases kind with
  | name =>
      obtain ⟨first, continued, rfl, _⟩ := lexeme_first_class lexeme
      rw [List.cons_append] at longer
      exact stops next head (name_lexeme_continued longer (by simp))
  | number =>
      obtain ⟨noDigit, point⟩ := stops next head
      have inside : next ∈ span ++ next :: more := by simp
      rcases number_lexeme_characters longer inside with digit | rfl
      · rw [digit] at noDigit
        contradiction
      · have single := number_lexeme_point longer
        have pointed := List.count_pos_iff.mpr (point rfl)
        rw [List.count_append, List.count_cons_self] at single
        omega
  | string => exact string_lexeme_alone lexeme longer
  | symbol =>
      generalize whole : span ++ next :: more = text at longer
      cases lexeme
      cases longer
      simp at whole

/-- A lexeme that is not extended by what follows it is the longest. -/
theorem unextended_lexeme_longest (lexeme : IsLexeme kind span)
    (stops : Unextended kind span later) : IsLongestLexeme (span ++ later) kind span := by
  refine ⟨lexeme, List.prefix_append span later, ?_⟩
  intro other candidate candidateLexeme begins
  have same : other = kind := lexeme_kind_unique candidateLexeme begins lexeme
    (List.prefix_append span later)
  subst same
  by_contra longer
  have shorter : span <+: candidate :=
    List.prefix_of_prefix_length_le (List.prefix_append span later) begins (by omega)
  obtain ⟨tail, rfl⟩ := shorter
  cases tail with
  | nil => simp at longer
  | cons next more =>
      obtain ⟨rest, rfl⟩ := (List.prefix_append_right_inj span).mp begins
      exact longer_lexeme_extends lexeme candidateLexeme rfl stops

end Extensions

theorem longest_lexeme_unique {text left right : List Char} {kind other : TokenKind}
    (leftLongest : IsLongestLexeme text kind left)
    (rightLongest : IsLongestLexeme text other right) : left = right := by
  apply List.IsPrefix.eq_of_length
  · exact List.prefix_of_prefix_length_le leftLongest.begins rightLongest.begins
      (rightLongest.longest kind left leftLongest.lexeme leftLongest.begins)
  · exact Nat.le_antisymm
      (rightLongest.longest kind left leftLongest.lexeme leftLongest.begins)
      (leftLongest.longest other right rightLongest.lexeme rightLongest.begins)

theorem spelled_payload_unique {left right : Payload} {span : List Char}
    (same : left.kind = right.kind) (leftSpelled : left.SpelledBy span)
    (rightSpelled : right.SpelledBy span) : left = right := by
  cases left with
  | name text =>
      cases right with
      | name other => exact congrArg Payload.name (leftSpelled.trans rightSpelled.symm)
      | number _ | string _ | symbol _ => contradiction
  | number value =>
      cases right with
      | number other =>
          exact congrArg _ (Option.some.inj (leftSpelled.symm.trans rightSpelled))
      | name _ | string _ | symbol _ => contradiction
  | string text =>
      cases right with
      | string other =>
          obtain ⟨body, given, spelled⟩ := rightSpelled
          rw [spelled] at leftSpelled
          rw [given, string_spelled leftSpelled]
      | name _ | number _ | symbol _ => contradiction
  | symbol text =>
      cases right with
      | symbol other => exact congrArg Payload.symbol (leftSpelled.trans rightSpelled.symm)
      | name _ | number _ | string _ => contradiction

end ExprLexer
