import ExprLexer.Proofs.NumberLiterals
import ExprLexer.Proofs.RecordChecks

/-!
Two ways to make a number token of a natural number: to read digits that spell it, and to convert
the number itself. Both round it to the nearest number, and a rational is rounded to one number
only, so the two ways agree. They part where numbers end: what is read is infinite there, and
there is nothing to convert to.
-/

namespace ExprLexer

open Text

/-- Digits of any scripts that are a natural number in base ten, zeros before it allowed. -/
structure Spells (digits : List Char) (number : ℕ) : Prop where
  present : digits ≠ []
  decimal : ∀ digit ∈ digits, isDecimalDigit digit = true
  value : wholeValue digits = number

def integerRecord (number : ℕ) : Json :=
  .obj [("_type", .str "Token"), ("type", .str "NUMBER"), ("value", .int number)]

section Conversion

variable {number : ℕ}

theorem of_record_integer (number : ℕ) :
    Token.ofRecord (integerRecord number) = (Token.integer number).mapError .unfit := by
  let members : List (CodeText × Json) :=
    [("_type", .str "Token"), ("type", .str "NUMBER"), ("value", .int number)]
  have tagged : members.lookup ↑"_type" = some (.str "Token") := rfl
  have named : members.lookup ↑"type" = some (.str TokenKind.number.label) := rfl
  have value : members.lookup ↑"value" = some (.int number) := rfl
  change Token.ofRecord (.obj members) = _
  rw [Token.of_record_named tagged named, value, Option.elim_some, Token.ofKindAndValue,
    Token.ofNumberValue]

theorem of_int_rounded {value : Binary64} (found : Binary64.ofInt? number = some value) :
    value.IsRoundedFrom number := by
  have rounded := Binary64.of_natural_rounded number
  rw [Binary64.ofQuotient] at rounded
  rw [Binary64.ofInt?, Int.natAbs_natCast, Option.map_eq_some_iff] at found
  obtain ⟨magnitude, nearest, rfl⟩ := found
  rw [nearest] at rounded
  have unsigned : decide ((number : Int) < 0) = false := decide_eq_false (by omega)
  rw [unsigned]
  exact rounded

theorem integer_below_overflow (small : number < Binary64.overflowBound) :
    ∃ value : Binary64, value.IsRoundedFrom number ∧
      Token.integer number = .ok (.number value) := by
  cases found : Binary64.ofInt? number with
  | none =>
      have large := (Binary64.of_int_none_iff number).mp found
      rw [Int.natAbs_natCast] at large
      omega
  | some value =>
      refine ⟨value, of_int_rounded found, ?_⟩
      rw [Token.integer, found]
      rfl

theorem integer_beyond_overflow (large : Binary64.overflowBound ≤ number) :
    Token.integer number = .error .integerTooLarge := by
  have nothing := (Binary64.of_int_none_iff number).mpr (by rwa [Int.natAbs_natCast])
  rw [Token.integer, nothing]
  rfl

end Conversion

section Spellings

variable {digits literal : List Char} {number : ℕ} {value : Binary64}

theorem spelling_is_literal (spelled : Spells digits number)
    (shape : literal ∈ [digits, digits ++ ['.']]) :
    IsLexeme .number literal ∧ literalValue literal = number := by
  have lexeme := IsLexeme.integer spelled.present spelled.decimal
  have pointless := digits_pointless spelled.decimal
  have whole : literalValue digits = number := by
    rw [literal_value_whole pointless, spelled.value]
  rw [List.mem_cons, List.mem_singleton] at shape
  rcases shape with rfl | rfl
  · exact ⟨lexeme, whole⟩
  · rw [← whole]
    exact point_behind_literal lexeme (List.forall_mem_nil _) pointless

theorem lone_literal_run (file : Option String) (config : LexConfig)
    (lexeme : IsLexeme .number literal) (rounded : value.IsRoundedFrom (literalValue literal)) :
    tokenize (String.ofList literal) file config =
      ⟨[⟨.number value, .ofPlaces literal file 0 literal.length⟩], none, [],
        .atPlace literal file config literal.length⟩ := by
  have reading := lone_literal_reading file config lexeme rounded
  have ended := first_ink_at_end literal
  rw [tokenize, Lexer.of_source_at_place, String.toList_ofList,
    Lexer.drain_of_token (congrArg Reading.outcome reading), reading,
    run_to_end (Nat.le_refl _) ended]
  rfl

end Spellings

/-- Reading a natural number and converting it make equal tokens up to the bound where numbers
end, at every spelling and with a point behind it. From the bound on the number that is read is
infinite and both conversions report an overflow. -/
theorem integers_read_as_converted {digits : List Char} {number : ℕ}
    (spelled : Spells digits number) (file : Option String) (config : LexConfig) :
    (number < Binary64.overflowBound →
      ∃ token, Token.integer number = .ok token ∧
        Token.ofRecord (integerRecord number) = .ok token ∧
        ∀ literal ∈ [digits, digits ++ ['.']], ∃ lexed,
          (tokenize (String.ofList literal) file config).error = none ∧
          (tokenize (String.ofList literal) file config).tokens = [lexed] ∧
          lexed.payload = token.payload ∧ lexed.agrees token = true) ∧
    (Binary64.overflowBound ≤ number →
      (∃ error, Token.integer number = .error error ∧ error.errorClass = .overflow) ∧
      (∃ error, Token.ofRecord (integerRecord number) = .error error ∧
        error.errorClass = .overflow) ∧
      ∀ literal ∈ [digits, digits ++ ['.']], ∃ lexed,
        (tokenize (String.ofList literal) file config).error = none ∧
        (tokenize (String.ofList literal) file config).tokens = [lexed] ∧
        lexed.payload = .number (.infinity false)) := by
  constructor
  · intro small
    obtain ⟨value, rounded, converted⟩ := integer_below_overflow small
    refine ⟨.number value, converted, ?_, ?_⟩
    · rw [of_record_integer, converted]
      rfl
    · intro literal shape
      obtain ⟨lexeme, denotes⟩ := spelling_is_literal spelled shape
      rw [← denotes] at rounded
      have unsigned := rounded_unsigned rounded
      have equal := (Binary64.numerically_equal_iff unsigned unsigned).mpr rfl
      rw [lone_literal_run file config lexeme rounded]
      exact ⟨_, rfl, rfl, rfl, equal⟩
  · intro large
    have refused := integer_beyond_overflow large
    refine ⟨⟨_, refused, rfl⟩, ⟨.unfit .integerTooLarge, ?_, rfl⟩, ?_⟩
    · rw [of_record_integer, refused]
      rfl
    · intro literal shape
      obtain ⟨lexeme, denotes⟩ := spelling_is_literal spelled shape
      have rounded : (Binary64.infinity false).IsRoundedFrom (literalValue literal) := by
        rw [denotes]
        exact .infinite (Nat.cast_le.mpr large)
      rw [lone_literal_run file config lexeme rounded]
      exact ⟨_, rfl, rfl, rfl⟩

/-- The least natural number between two numbers, spelled in two scripts with a zero before it. -/
theorem halfway_integer_read_as_converted :
    Spells "٠9٠٠7199254740993".toList 9007199254740993 ∧
      9007199254740993 < Binary64.overflowBound ∧
      ∃ token, Token.integer 9007199254740993 = .ok token ∧
        Token.ofRecord (integerRecord 9007199254740993) = .ok token ∧
        ∀ literal ∈ ["٠9٠٠7199254740993".toList, "٠9٠٠7199254740993".toList ++ ['.']],
          ∃ lexed,
            (tokenize (String.ofList literal) (some "prog") ⟨false⟩).error = none ∧
            (tokenize (String.ofList literal) (some "prog") ⟨false⟩).tokens = [lexed] ∧
            lexed.payload = token.payload ∧ lexed.agrees token = true := by
  have spelled : Spells "٠9٠٠7199254740993".toList 9007199254740993 :=
    ⟨by decide +kernel, List.all_eq_true.mp (by decide +kernel), by decide +kernel⟩
  have small : 9007199254740993 < Binary64.overflowBound := by decide +kernel
  exact ⟨spelled, small, (integers_read_as_converted spelled (some "prog") ⟨false⟩).1 small⟩

end ExprLexer
