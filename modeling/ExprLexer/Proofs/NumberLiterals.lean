import ExprLexer.Proofs.Concatenation
import ExprLexer.Proofs.DecimalText
import ExprLexer.Proofs.GoldenTexts
import ExprLexer.Proofs.RationalRounding
import Mathlib.Data.List.Induction
import Mathlib.Tactic.Ring

/-!
The values of number literals. A literal denotes a rational number, digit by digit and place by
place, whatever scripts its digits are of. The token that a lexer delivers for it has that rational
rounded to the nearest number, so two literals that denote one rational have one value.
-/

namespace ExprLexer

attribute [local instance (high)] instPowNat

namespace Text

/-- What the digits before a point denote, each its value times the power of ten of its place. -/
def wholeValue : List Char → ℕ
  | [] => 0
  | digit :: later => (digitValue? digit).getD 0 * 10 ^ later.length + wholeValue later

def fractionValue : List Char → ℚ
  | [] => 0
  | digit :: later => ((digitValue? digit).getD 0 + fractionValue later) / 10

def literalValue (literal : List Char) : ℚ :=
  wholeValue (literal.takeWhile (· != '.')) + fractionValue (literal.dropWhile (· != '.')).tail

theorem natural_of_digits_append (first second : List Char) :
    naturalOfDigits (first ++ second) =
      naturalOfDigits first * 10 ^ second.length + naturalOfDigits second := by
  induction second using List.reverseRecOn with
  | nil =>
      rw [List.append_nil, List.length_nil, Nat.pow_zero, Nat.mul_one]
      rfl
  | append_singleton before last induction =>
      rw [← List.append_assoc, natural_of_digits_snoc, natural_of_digits_snoc, induction,
        List.length_append, List.length_singleton, Nat.pow_succ]
      ring

theorem natural_of_digits_cons (digit : Char) (later : List Char) :
    naturalOfDigits (digit :: later) =
      (digitValue? digit).getD 0 * 10 ^ later.length + naturalOfDigits later := by
  have single : naturalOfDigits [digit] = (digitValue? digit).getD 0 := Nat.zero_add _
  rw [← single, ← natural_of_digits_append, List.singleton_append]

theorem whole_value_natural (digits : List Char) : wholeValue digits = naturalOfDigits digits := by
  induction digits with
  | nil => rfl
  | cons digit later induction => rw [wholeValue, natural_of_digits_cons, induction]

theorem fraction_value_natural (digits : List Char) :
    fractionValue digits = naturalOfDigits digits / 10 ^ digits.length := by
  induction digits with
  | nil => exact (zero_div _).symm
  | cons digit later induction =>
      rw [fractionValue, induction, natural_of_digits_cons, List.length_cons, pow_succ]
      push_cast
      field_simp

section Points

variable {whole : List Char}

theorem before_point (pointless : '.' ∉ whole) :
    ∀ character ∈ whole, (character != '.') = true := by
  intro character member
  apply bne_iff_ne.mpr
  rintro rfl
  exact pointless member

theorem literal_value_whole (pointless : '.' ∉ whole) : literalValue whole = wholeValue whole := by
  have run := List.takeWhile_eq_self_iff.mpr (before_point pointless)
  have stop := List.dropWhile_eq_nil_iff.mpr (before_point pointless)
  rw [literalValue, run, stop]
  exact add_zero _

theorem literal_value_pointed (pointless : '.' ∉ whole) (fraction : List Char) :
    literalValue (whole ++ '.' :: fraction) = wholeValue whole + fractionValue fraction := by
  have before := before_point pointless
  have stops : ('.' != '.') = false := by decide
  rw [literalValue, List.takeWhile_append_of_pos before, List.dropWhile_append_of_pos before,
    List.takeWhile_cons, List.dropWhile_cons, stops]
  simp only [Bool.false_eq_true, if_false, List.append_nil, List.tail_cons]

theorem digits_pointless (decimal : ∀ character ∈ whole, isDecimalDigit character = true) :
    '.' ∉ whole :=
  List.count_eq_zero.mp (no_point_in_digits decimal)

end Points

section Zeros

variable {zeros : List Char} (zero : ∀ digit ∈ zeros, digitValue? digit = some 0)

include zero

theorem zeros_decimal : ∀ digit ∈ zeros, isDecimalDigit digit = true := by
  intro digit member
  rw [isDecimalDigit, zero digit member, Option.isSome_some]

theorem whole_value_behind_zeros (digits : List Char) :
    wholeValue (zeros ++ digits) = wholeValue digits := by
  induction zeros with
  | nil => rfl
  | cons digit later induction =>
      have first := zero digit List.mem_cons_self
      rw [List.cons_append, wholeValue, first, Option.getD_some, Nat.zero_mul, Nat.zero_add]
      exact induction fun other member => zero other (List.mem_cons_of_mem digit member)

theorem fraction_value_of_zeros : fractionValue zeros = 0 := by
  induction zeros with
  | nil => rfl
  | cons digit later induction =>
      have first := zero digit List.mem_cons_self
      have nothing := induction fun other member => zero other (List.mem_cons_of_mem digit member)
      rw [fractionValue, first, nothing, Option.getD_some, Nat.cast_zero, add_zero, zero_div]

theorem fraction_value_before_zeros (digits : List Char) :
    fractionValue (digits ++ zeros) = fractionValue digits := by
  induction digits with
  | nil => exact fraction_value_of_zeros zero
  | cons digit later induction => rw [List.cons_append, fractionValue, induction, fractionValue]

end Zeros

end Text

open Text

theorem rounded_unsigned {exact : ℚ} {number : Binary64} (rounded : number.IsRoundedFrom exact) :
    number.Unsigned := by
  cases rounded with
  | infinite _ => rfl
  | finite _ _ _ => rfl

section Literals

variable {literal : List Char}

theorem numeral_quotient (whole fraction : List Char) :
    Numeral.toBinary64 ⟨false, whole, fraction, 0⟩ =
      .ofQuotient false (naturalOfDigits (whole ++ fraction)) (10 ^ fraction.length)
        (Nat.pow_pos (by decide)) := by
  have parts := Binary64.of_scientific_quotient false (naturalOfDigits (whole ++ fraction)) 0
    fraction.length
  simp only [Nat.pow_zero, Nat.mul_one] at parts
  exact parts

theorem read_number_literal (lexeme : IsLexeme .number literal) :
    ∃ value : Binary64, Numeral.readText? literal = some value ∧
      value.IsRoundedFrom (literalValue literal) := by
  cases lexeme with
  | integer present decimal =>
      refine ⟨_, Numeral.read_integer_lexeme present decimal, ?_⟩
      rw [literal_value_whole (digits_pointless decimal), numeral_quotient, whole_value_natural]
      simp only [List.append_nil, List.length_nil, Nat.pow_zero]
      exact Binary64.of_natural_rounded _
  | @pointed whole fraction present wholeDecimal fractionDecimal =>
      have tens : ((10 ^ fraction.length : ℕ) : ℚ) = 10 ^ fraction.length :=
        Nat.cast_pow 10 fraction.length
      have nonzero : (10 ^ fraction.length : ℚ) ≠ 0 := pow_ne_zero _ (by norm_num)
      have value : literalValue (whole ++ '.' :: fraction) =
          naturalOfDigits (whole ++ fraction) / (10 ^ fraction.length : ℕ) := by
        rw [literal_value_pointed (digits_pointless wholeDecimal), whole_value_natural,
          fraction_value_natural, natural_of_digits_append, Nat.cast_add, Nat.cast_mul, tens]
        field_simp
      refine ⟨_, Numeral.read_pointed_lexeme present wholeDecimal fractionDecimal, ?_⟩
      rw [value, numeral_quotient]
      exact Binary64.of_quotient_rounded _

/-- Literals that denote one rational are read as one number. -/
theorem read_by_value {other : List Char} (lexeme : IsLexeme .number literal)
    (otherLexeme : IsLexeme .number other) (same : literalValue literal = literalValue other) :
    Numeral.readText? literal = Numeral.readText? other := by
  obtain ⟨value, read, rounded⟩ := read_number_literal lexeme
  obtain ⟨otherValue, otherRead, otherRounded⟩ := read_number_literal otherLexeme
  rw [same] at rounded
  rw [read, otherRead, Binary64.rounded_unique rounded otherRounded]

theorem fraction_value_nonneg (digits : List Char) : 0 ≤ fractionValue digits := by
  rw [fraction_value_natural]
  positivity

theorem literal_value_nonneg (literal : List Char) : 0 ≤ literalValue literal :=
  add_nonneg (Nat.cast_nonneg _) (fraction_value_nonneg _)

section Padding

variable {zeros : List Char} (lexeme : IsLexeme .number literal)
  (zero : ∀ digit ∈ zeros, digitValue? digit = some 0)

include lexeme zero

theorem zeros_before_literal : IsLexeme .number (zeros ++ literal) ∧
    literalValue (zeros ++ literal) = literalValue literal := by
  cases lexeme with
  | integer present decimal =>
      have longer := List.forall_mem_append.mpr ⟨zeros_decimal zero, decimal⟩
      constructor
      · exact .integer (List.append_ne_nil_of_right_ne_nil zeros present) longer
      · rw [literal_value_whole (digits_pointless longer),
          literal_value_whole (digits_pointless decimal), whole_value_behind_zeros zero]
  | pointed present wholeDecimal fractionDecimal =>
      have longer := List.forall_mem_append.mpr ⟨zeros_decimal zero, wholeDecimal⟩
      rw [← List.append_assoc]
      constructor
      · exact .pointed (List.append_ne_nil_of_right_ne_nil zeros present) longer fractionDecimal
      · rw [literal_value_pointed (digits_pointless longer),
          literal_value_pointed (digits_pointless wholeDecimal), whole_value_behind_zeros zero]

theorem point_behind_literal (pointless : '.' ∉ literal) :
    IsLexeme .number (literal ++ '.' :: zeros) ∧
      literalValue (literal ++ '.' :: zeros) = literalValue literal := by
  cases lexeme with
  | integer present decimal =>
      constructor
      · exact .pointed present decimal (zeros_decimal zero)
      · rw [literal_value_pointed pointless, literal_value_whole pointless,
          fraction_value_of_zeros zero, add_zero]
  | pointed _ _ _ => exact absurd (List.mem_append_right _ List.mem_cons_self) pointless

theorem zeros_behind_literal (pointed : '.' ∈ literal) :
    IsLexeme .number (literal ++ zeros) ∧
      literalValue (literal ++ zeros) = literalValue literal := by
  cases lexeme with
  | integer _ decimal => exact absurd pointed (digits_pointless decimal)
  | @pointed whole fraction present wholeDecimal fractionDecimal =>
      rw [List.append_assoc, List.cons_append]
      have longer := List.forall_mem_append.mpr ⟨fractionDecimal, zeros_decimal zero⟩
      constructor
      · exact .pointed present wholeDecimal longer
      · rw [literal_value_pointed (digits_pointless wholeDecimal),
          literal_value_pointed (digits_pointless wholeDecimal), fraction_value_before_zeros zero]

end Padding

end Literals

section Deliveries

variable {literal : List Char} {value : Binary64}

theorem lone_literal_reading (file : Option String) (config : LexConfig)
    (lexeme : IsLexeme .number literal) (rounded : value.IsRoundedFrom (literalValue literal)) :
    (Lexer.atPlace literal file config 0).next =
      ⟨.token ⟨.number value, .ofPlaces literal file 0 literal.length⟩, [],
        .atPlace literal file config literal.length⟩ := by
  obtain ⟨read, spelled, readRounded⟩ := read_number_literal lexeme
  rw [Binary64.rounded_unique readRounded rounded] at spelled
  have ink : FirstInk literal 0 0 := by
    apply first_ink_here (Nat.zero_le _)
    intro character here
    obtain ⟨first, more, rfl, classified⟩ := lexeme_first_class lexeme
    cases here
    exact digit_not_blank (CharClass.of_digit_iff.mp classified)
  have longest : IsLongestLexeme (literal.drop 0) (Payload.number value).kind literal := by
    have alone := unextended_lexeme_longest lexeme nothing_extends
    rw [List.append_nil] at alone
    exact alone
  have reading := token_reading file config (Nat.zero_le _) ink longest spelled
  rw [Nat.zero_add] at reading
  exact reading

def DeliversNumber (literal : List Char) (value : Binary64) : Prop :=
  ∃ source file config count token,
    ((Lexer.ofSource source file config).afterReads count).next.outcome = .token token ∧
      token.payload = .number value ∧ token.spanIn source.toList = literal

theorem delivers_number_iff :
    DeliversNumber literal value ↔
      IsLexeme .number literal ∧ value.IsRoundedFrom (literalValue literal) := by
  constructor
  · rintro ⟨source, file, config, count, token, delivered, payload, rfl⟩
    obtain ⟨_, _, _, _, found⟩ := Lexer.reading_after_reads source file config count
    obtain ⟨span, longest, spelled, located, _, _⟩ := delivered_token found delivered
    have spanned := token_span longest located
    rw [payload] at longest spelled
    obtain ⟨read, same, rounded⟩ := read_number_literal longest.lexeme
    rw [spanned, Option.some.inj (spelled.symm.trans same)]
    exact ⟨longest.lexeme, rounded⟩
  · rintro ⟨lexeme, rounded⟩
    have source : (String.ofList literal).toList = literal := String.toList_ofList
    refine ⟨String.ofList literal, none, ⟨true⟩, 0,
      ⟨.number value, .ofPlaces literal none 0 literal.length⟩, ?_, rfl, ?_⟩
    · rw [Lexer.afterReads, Lexer.of_source_at_place, source,
        lone_literal_reading none ⟨true⟩ lexeme rounded]
    · rw [source, Token.spanIn, offset_of_places, end_of_places, slice, List.drop_zero,
        List.take_length]

end Deliveries

/-- The values of number literals, whatever text they stand in and whatever scripts their digits
are of. Each literal has a value, which is what the literal denotes, rounded to the nearest number.
It grows with what the literal denotes, and neither zeros before the literal nor a point behind it
nor zeros behind the point change it. -/
theorem number_literals_round_to_nearest :
    (∀ literal, IsLexeme .number literal → ∃ value, DeliversNumber literal value) ∧
    (∀ literal value, DeliversNumber literal value →
      IsLexeme .number literal ∧ value.IsRoundedFrom (literalValue literal) ∧
      (value = .infinity false ↔ (Binary64.overflowBound : ℚ) ≤ literalValue literal) ∧
      (value = .finite false .zero ↔ literalValue literal ≤ Binary64.halfUnit) ∧
      value.Unsigned) ∧
    (∀ literal other value otherValue, DeliversNumber literal value →
      DeliversNumber other otherValue → literalValue literal ≤ literalValue other →
        value.AtMost otherValue) ∧
    (∀ literal zeros value, IsLexeme .number literal →
      (∀ zero ∈ zeros, digitValue? zero = some 0) →
        (DeliversNumber (zeros ++ literal) value ↔ DeliversNumber literal value) ∧
        ('.' ∉ literal →
          (DeliversNumber (literal ++ '.' :: zeros) value ↔ DeliversNumber literal value)) ∧
        ('.' ∈ literal →
          (DeliversNumber (literal ++ zeros) value ↔ DeliversNumber literal value))) := by
  refine ⟨?_, ?_, ?_, ?_⟩
  · intro literal lexeme
    obtain ⟨value, _, rounded⟩ := read_number_literal lexeme
    exact ⟨value, delivers_number_iff.mpr ⟨lexeme, rounded⟩⟩
  · intro literal value delivers
    obtain ⟨lexeme, rounded⟩ := delivers_number_iff.mp delivers
    exact ⟨lexeme, rounded, Binary64.rounded_infinite_iff rounded,
      Binary64.rounded_zero_iff (literal_value_nonneg literal) rounded, rounded_unsigned rounded⟩
  · intro literal other value otherValue delivers otherDelivers order
    have rounded := (delivers_number_iff.mp delivers).2
    have otherRounded := (delivers_number_iff.mp otherDelivers).2
    exact Binary64.rounded_in_order order rounded otherRounded
  · intro literal zeros value lexeme zero
    have padded : ∀ {other}, IsLexeme .number other ∧ literalValue other = literalValue literal →
        (DeliversNumber other value ↔ DeliversNumber literal value) := by
      intro other ⟨otherLexeme, same⟩
      rw [delivers_number_iff, delivers_number_iff, same]
      exact and_congr_left fun _ => iff_of_true otherLexeme lexeme
    refine ⟨padded (zeros_before_literal lexeme zero), ?_, ?_⟩
    · intro pointless
      exact padded (point_behind_literal lexeme zero pointless)
    · intro pointed
      exact padded (zeros_behind_literal lexeme zero pointed)

/-- Halfway between two numbers a literal has the value of the even one. -/
example : Numeral.readText? "٠९007199254740993.0".toList =
    some (.ofQuotient false (2 ^ 53) 1 Nat.one_pos) := by
  decide +kernel

end ExprLexer
