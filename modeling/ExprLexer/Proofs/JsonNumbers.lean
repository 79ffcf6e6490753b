import ExprLexer.Json.Printer
import ExprLexer.Json.Reader
import ExprLexer.Proofs.DecimalText
import ExprLexer.Proofs.JsonStrings
import ExprLexer.Proofs.ShortestDecimal

/-!
Written numbers are read back. Every written number is made of a whole part, a fraction and an
exponent, of which the last two may be absent. The reader finds these parts again as long as
nothing follows that would carry the number on, and the parts denote the number.
-/

namespace ExprLexer.Json

open Text

attribute [local instance (high)] instPowNat

def AllDigits (text : List Char) : Prop := ∀ character ∈ text, isAsciiDigit character = true

namespace AllDigits

theorem subset {text within : List Char} (all : AllDigits within) (inside : text ⊆ within) :
    AllDigits text :=
  fun character member => all character (inside member)

theorem append {left right : List Char} (leftAll : AllDigits left) (rightAll : AllDigits right) :
    AllDigits (left ++ right) := by
  intro character member
  rcases List.mem_append.mp member with inside | inside
  · exact leftAll character inside
  · exact rightAll character inside

theorem zeros (count : Nat) : AllDigits (List.replicate count '0') := by
  intro character member
  rw [List.eq_of_mem_replicate member]
  decide

theorem to_digits (number : Nat) : AllDigits (Nat.toDigits 10 number) :=
  fun _ member => to_digits_ascii member

end AllDigits

/-- What follows a number does not carry it on. -/
def EndsNumber (rest : List Char) : Prop :=
  ∀ next ∈ rest.head?, isAsciiDigit next = false ∧ next ≠ '.' ∧ next ≠ 'e' ∧ next ≠ 'E'

def EndsDigits (rest : List Char) : Prop := ∀ next ∈ rest.head?, isAsciiDigit next = false

theorem EndsNumber.ends_digits {rest : List Char} (ended : EndsNumber rest) : EndsDigits rest :=
  fun next first => (ended next first).1

theorem digit_ne {digit other : Char} (decimal : isAsciiDigit digit = true)
    (noDigit : isAsciiDigit other = false) : digit ≠ other := by
  rintro rfl
  rw [decimal] at noDigit
  contradiction

theorem take_digits {digits rest : List Char} (decimal : AllDigits digits)
    (ended : EndsDigits rest) :
    (digits ++ rest).takeWhile isAsciiDigit = digits := by
  rw [List.takeWhile_append_of_pos decimal]
  cases rest with
  | nil => simp
  | cons next rest => simp [ended next rfl]

theorem drop_digits {digits rest : List Char} (decimal : AllDigits digits)
    (ended : EndsDigits rest) :
    (digits ++ rest).dropWhile isAsciiDigit = rest := by
  rw [List.dropWhile_append_of_pos decimal]
  cases rest with
  | nil => rfl
  | cons next rest => simp [ended next rfl]

/-- The parts of a written number. The whole part is a lone zero or does not begin with one. -/
structure NumberParts where
  first : Char
  more : List Char
  fraction : List Char
  exponent : Option Int
  firstDecimal : isAsciiDigit first = true
  moreDecimal : AllDigits more
  loneZero : first = '0' → more = []
  fractionDecimal : AllDigits fraction

namespace NumberParts

def fractionText (fraction : List Char) : List Char :=
  if fraction = [] then [] else '.' :: fraction

def exponentText : Option Int → List Char
  | none => []
  | some exponent => 'e' :: NumberLayout.json.exponentText exponent

def whole (parts : NumberParts) : List Char := parts.first :: parts.more

def text (parts : NumberParts) : List Char :=
  parts.whole ++ (fractionText parts.fraction ++ exponentText parts.exponent)

def numeral (parts : NumberParts) (negative : Bool) : Numeral :=
  ⟨negative, parts.whole, parts.fraction, parts.exponent.getD 0⟩

end NumberParts

theorem split_whole_gives (parts : NumberParts) {rest : List Char} (ended : EndsDigits rest) :
    ∃ after, splitWhole? (parts.whole ++ rest) = some (parts.whole, after) ∧ after.val = rest := by
  by_cases zero : parts.first = '0'
  · have lone := parts.loneZero zero
    simp [NumberParts.whole, splitWhole?, zero, lone]
  · have taken := take_digits parts.moreDecimal ended
    have dropped := drop_digits parts.moreDecimal ended
    simp [NumberParts.whole, splitWhole?, zero, parts.firstDecimal, taken, dropped]

theorem split_fraction_gives {fraction rest : List Char} (decimal : AllDigits fraction)
    (ended : EndsDigits rest) (noPoint : ∀ next ∈ rest.head?, next ≠ '.') :
    splitFraction (NumberParts.fractionText fraction ++ rest) = (fraction, rest) := by
  cases fraction with
  | nil =>
      cases rest with
      | nil => rfl
      | cons next rest => simp [NumberParts.fractionText, splitFraction, noPoint next rfl]
  | cons digit digits =>
      have taken := take_digits decimal ended
      have dropped := drop_digits decimal ended
      simp only [NumberParts.fractionText, reduceCtorEq, if_false, List.cons_append, splitFraction]
      rw [← List.cons_append, taken, dropped]

theorem signed_size (value : Int) :
    (if decide (value < 0) = true then -(value.natAbs : Int) else value.natAbs) = value := by
  simp only [decide_eq_true_iff]
  split <;> omega

theorem split_exponent_signed (negative : Bool) (zeros size : Nat) {rest : List Char}
    (ended : EndsDigits rest) :
    splitExponent ('e' :: (if negative then '-' else '+') ::
      (List.replicate zeros '0' ++ Nat.toDigits 10 size ++ rest)) =
        (some (if negative then -(size : Int) else size), rest) := by
  have decimal := (AllDigits.zeros zeros).append (AllDigits.to_digits size)
  have present : List.replicate zeros '0' ++ Nat.toDigits 10 size ≠ [] := by
    intro none
    exact Nat.toDigits_ne_nil (List.append_eq_nil_iff.mp none).2
  have value : naturalOfDigits (List.replicate zeros '0' ++ Nat.toDigits 10 size) = size := by
    rw [natural_of_leading_zeros, natural_of_to_digits]
  have taken := take_digits decimal ended
  have dropped := drop_digits decimal ended
  cases negative <;>
    simp only [splitExponent, splitExponentSign, if_true, Bool.false_eq_true, if_false, taken,
      dropped, value, true_or, true_and, ne_eq, present, not_false_eq_true]

theorem split_exponent_gives (exponent : Option Int) {rest : List Char}
    (ended : EndsNumber rest) :
    splitExponent (NumberParts.exponentText exponent ++ rest) = (exponent, rest) := by
  cases exponent with
  | none =>
      cases rest with
      | nil => rfl
      | cons next rest =>
          have noMark := (ended next rfl).2.2
          simp [NumberParts.exponentText, splitExponent, noMark]
  | some exponent =>
      have signed := split_exponent_signed (decide (exponent < 0))
        (NumberLayout.json.exponentWidth - (Nat.toDigits 10 exponent.natAbs).length)
        exponent.natAbs ended.ends_digits
      rw [signed_size] at signed
      simpa only [NumberParts.exponentText, NumberLayout.exponentText, decide_eq_true_iff,
        List.cons_append, List.append_assoc] using signed

theorem read_unsigned_split {start text whole : List Char} {negative : Bool}
    {afterWhole : Shorter text} {value : Json}
    (wholeSplit : splitWhole? text = some (whole, afterWhole))
    (made : numberValue negative whole (splitFraction afterWhole.val).1
      (splitExponent (splitFraction afterWhole.val).2).1 = .ok value) :
    Gives (readUnsigned start negative text) value
      (splitExponent (splitFraction afterWhole.val).2).2 := by
  simp only [readUnsigned, wholeSplit, made]
  exact ⟨_, rfl, rfl⟩

/-- The parts of a number at the front of a text are found again. -/
theorem read_unsigned_gives (start : List Char) {negative : Bool} {parts : NumberParts}
    {rest : List Char} {value : Json} (ended : EndsNumber rest)
    (made : numberValue negative parts.whole parts.fraction parts.exponent = .ok value) :
    Gives (readUnsigned start negative (parts.text ++ rest)) value rest := by
  have exponentSplit := split_exponent_gives parts.exponent ended
  have afterFraction : EndsDigits (NumberParts.exponentText parts.exponent ++ rest) ∧
      ∀ next ∈ (NumberParts.exponentText parts.exponent ++ rest).head?, next ≠ '.' := by
    cases parts.exponent with
    | none => exact ⟨ended.ends_digits, fun next first => (ended next first).2.1⟩
    | some exponent => constructor <;> (rintro next ⟨⟩; decide)
  have fractionSplit := split_fraction_gives parts.fractionDecimal afterFraction.1 afterFraction.2
  have afterWhole : EndsDigits (NumberParts.fractionText parts.fraction ++
      (NumberParts.exponentText parts.exponent ++ rest)) := by
    cases parts.fraction with
    | nil => exact afterFraction.1
    | cons digit digits =>
        rintro next ⟨⟩
        decide
  obtain ⟨after, wholeSplit, leaves⟩ := split_whole_gives parts afterWhole
  rw [← leaves] at fractionSplit
  have read : Gives (readUnsigned start negative _) value _ :=
    read_unsigned_split wholeSplit (by rw [fractionSplit, exponentSplit]; exact made)
  rw [fractionSplit, exponentSplit] at read
  rwa [NumberParts.text, List.append_assoc, List.append_assoc]

theorem no_word_at_number (negative : Bool) (parts : NumberParts) (rest : List Char) :
    readWord? (NumberLayout.signText negative ++ (parts.text ++ rest)) = none := by
  have noLetter : ∀ letter, isAsciiDigit letter = false → letter ≠ parts.first :=
    fun letter noDigit => (digit_ne parts.firstDecimal noDigit).symm
  have noN : 'n' ≠ parts.first := noLetter 'n' (by decide)
  have noT : 't' ≠ parts.first := noLetter 't' (by decide)
  have noF : 'f' ≠ parts.first := noLetter 'f' (by decide)
  have noNan : 'N' ≠ parts.first := noLetter 'N' (by decide)
  have noInfinity : 'I' ≠ parts.first := noLetter 'I' (by decide)
  have noMinus : '-' ≠ parts.first := noLetter '-' (by decide)
  cases negative <;>
    simp [readWord?, wordValues, afterWord?, NumberLayout.signText, NumberParts.text,
      NumberParts.whole, noN, noT, noF, noNan, noInfinity, noMinus]

theorem read_scalar_word {text rest : List Char} {value : Json}
    (found : readWord? text = some (value, rest)) : Gives (readScalar text) value rest := by
  unfold readScalar
  split
  · rename_i other after same
    rw [found] at same
    cases same
    exact ⟨_, rfl, rfl⟩
  · rename_i absent
    rw [found] at absent
    contradiction

theorem read_scalar_number {text : List Char} (absent : readWord? text = none) :
    readScalar text = readNumber text := by
  unfold readScalar
  split
  · rename_i found
    rw [absent] at found
    contradiction
  · rfl

theorem read_signed_gives {negative : Bool} {parts : NumberParts} {rest : List Char}
    {value : Json} (ended : EndsNumber rest)
    (made : numberValue negative parts.whole parts.fraction parts.exponent = .ok value) :
    Gives (readScalar (NumberLayout.signText negative ++ (parts.text ++ rest))) value rest := by
  rw [read_scalar_number (no_word_at_number negative parts rest)]
  cases negative with
  | true =>
      obtain ⟨after, read, leaves⟩ := read_unsigned_gives ('-' :: (parts.text ++ rest)) ended made
      change Gives (readNumber ('-' :: (parts.text ++ rest))) value rest
      refine ⟨after.widen (Nat.le_succ _), ?_, leaves⟩
      simp only [readNumber, read]
  | false =>
      have noMinus : parts.first ≠ '-' := digit_ne parts.firstDecimal (by decide)
      have read := read_unsigned_gives (parts.text ++ rest) ended made
      have unsigned : readNumber (parts.text ++ rest) =
          readUnsigned (parts.text ++ rest) false (parts.text ++ rest) := by
        simp [NumberParts.text, NumberParts.whole, readNumber, noMinus]
      rw [← unsigned] at read
      exact read

namespace NumberParts

theorem numeral_value {parts : NumberParts} {digits zeros : Nat} {exponent : Int}
    (same : naturalOfDigits (parts.whole ++ parts.fraction) = digits * 10 ^ zeros)
    (moved : parts.exponent.getD 0 - parts.fraction.length + zeros = exponent)
    (negative : Bool) :
    (parts.numeral negative).toBinary64 = Binary64.ofScientific negative digits exponent := by
  rw [← moved, ← Binary64.of_scientific_zeros, ← same]
  rfl

/-- The parts spell a text that shows a fraction or an exponent, and they denote digits of which
the first has the given exponent. -/
structure Spells (parts : NumberParts) (text digits : List Char) (leading : Int) : Prop where
  spelled : parts.text = text
  float : ¬(parts.fraction = [] ∧ parts.exponent = none)
  value : ∀ negative, (parts.numeral negative).toBinary64 =
    Binary64.ofScientific negative (naturalOfDigits digits) (leading + 1 - digits.length)

section Positional

variable {first : Char} {more : List Char} {power : Nat}

/-- The digits after the first, with zeros that fill them up to the point. -/
def filled (more : List Char) (power : Nat) : List Char :=
  more ++ List.replicate (power - more.length) '0'

theorem filled_all_digits (decimal : AllDigits (first :: more)) :
    AllDigits (filled more power) :=
  (decimal.subset (List.subset_cons_self first more)).append (.zeros _)

theorem filled_length :
    (filled more power).length = more.length + (power - more.length) := by
  rw [filled, List.length_append, List.length_replicate]

theorem positional_filled :
    NumberLayout.positional (first :: more) (.ofNat power) =
      first :: ((filled more power).take power ++
        '.' :: (if (filled more power).drop power = [] then ['0']
          else (filled more power).drop power)) := by
  simp [NumberLayout.positional, NumberLayout.withPoint, filled]

/-- Digits that end before the point are followed by zeros up to it and by one behind it. -/
theorem spells_whole (nonzero : first ≠ '0') (decimal : AllDigits (first :: more))
    (ended : (filled more power).length ≤ power) :
    ∃ parts : NumberParts, parts.Spells
      (NumberLayout.positional (first :: more) (.ofNat power)) (first :: more) power := by
  refine ⟨⟨first, filled more power, ['0'], none, decimal first List.mem_cons_self,
    filled_all_digits decimal, fun zero => absurd zero nonzero, .zeros 1⟩, ?_, by simp, ?_⟩
  · rw [positional_filled, List.take_of_length_le ended, List.drop_of_length_le ended]
    simp [text, whole, fractionText, exponentText]
  · refine numeral_value (?_ : _ = _ * 10 ^ (power - more.length + 1)) ?_
    · rw [← natural_of_trailing_zeros, List.replicate_succ']
      simp [whole, filled]
    · rw [filled_length] at ended
      simp only [Option.getD_none, List.length_cons, List.length_nil]
      omega

theorem spells_pointed (nonzero : first ≠ '0') (decimal : AllDigits (first :: more))
    (behind : power < (filled more power).length) :
    ∃ parts : NumberParts, parts.Spells
      (NumberLayout.positional (first :: more) (.ofNat power)) (first :: more) power := by
  have present : (filled more power).drop power ≠ [] := by
    rw [ne_eq, List.drop_eq_nil_iff]
    omega
  have all : AllDigits (filled more power) := filled_all_digits decimal
  refine ⟨⟨first, (filled more power).take power, (filled more power).drop power, none,
    decimal first List.mem_cons_self, all.subset (List.take_subset _ _),
    fun zero => absurd zero nonzero, all.subset (List.drop_subset _ _)⟩, ?_, by simp [present], ?_⟩
  · rw [positional_filled, if_neg present]
    simp [text, whole, fractionText, exponentText, present]
  · refine numeral_value (?_ : _ = _ * 10 ^ (power - more.length)) ?_
    · change naturalOfDigits
        (first :: ((filled more power).take power ++ (filled more power).drop power)) = _
      rw [List.take_append_drop, ← natural_of_trailing_zeros]
      rfl
    · rw [filled_length] at behind
      simp only [Option.getD_none, List.length_cons, List.length_drop, filled_length]
      omega

/-- Below one the fraction holds all digits, with zeros before them. -/
theorem spells_below_one {digits : List Char} (present : digits ≠ []) (decimal : AllDigits digits)
    (power : Nat) :
    ∃ parts : NumberParts, parts.Spells
      (NumberLayout.positional digits (.negSucc power)) digits (.negSucc power) := by
  refine ⟨⟨'0', [], List.replicate power '0' ++ digits, none, by decide, .zeros 0,
    by simp, (AllDigits.zeros power).append decimal⟩, ?_, by simp [present], ?_⟩
  · simp [text, whole, fractionText, exponentText, NumberLayout.positional,
      NumberLayout.withPoint, present]
  · refine numeral_value (?_ : _ = _ * 10 ^ 0) ?_
    · change naturalOfDigits (List.replicate (power + 1) '0' ++ digits) = _
      rw [natural_of_leading_zeros, Nat.pow_zero, Nat.mul_one]
    · simp only [Option.getD_none, List.length_append, List.length_replicate]
      omega

theorem spells_positional (nonzero : first ≠ '0') (decimal : AllDigits (first :: more))
    (leading : Int) :
    ∃ parts : NumberParts, parts.Spells
      (NumberLayout.positional (first :: more) leading) (first :: more) leading := by
  cases leading with
  | ofNat power =>
      rcases Nat.lt_or_ge power (filled more power).length with behind | ended
      · exact spells_pointed nonzero decimal behind
      · exact spells_whole nonzero decimal ended
  | negSucc power => exact spells_below_one (List.cons_ne_nil _ _) decimal power

end Positional

theorem spells_scientific {first : Char} {more : List Char}
    (decimal : AllDigits (first :: more)) (leading : Int) :
    ∃ parts : NumberParts, parts.Spells
      (NumberLayout.json.scientific (first :: more) leading) (first :: more) leading := by
  refine ⟨⟨first, [], more, some leading, decimal first List.mem_cons_self, .zeros 0,
    fun _ => rfl, decimal.subset (List.subset_cons_self first more)⟩, ?_, by simp, ?_⟩
  · cases more <;> rfl
  · refine numeral_value (?_ : _ = _ * 10 ^ 0) ?_
    · rw [Nat.pow_zero, Nat.mul_one]
      rfl
    · simp only [Option.getD_some, List.length_cons]
      omega

/-- A decimal with digits other than zero is written as a number that denotes it. -/
theorem decimal_text_parts {decimal : Decimal} (present : 0 < decimal.digits) :
    ∃ parts : NumberParts, parts.text = NumberLayout.json.decimalText decimal ∧
      ¬(parts.fraction = [] ∧ parts.exponent = none) ∧
      ∀ negative, (parts.numeral negative).toBinary64 =
        Binary64.ofScientific negative decimal.digits decimal.exponent := by
  obtain ⟨first, more, zeros, significant, nonzero, digits⟩ := significant_digits present
  have all : AllDigits (first :: more) := by
    apply (AllDigits.to_digits decimal.digits).subset
    rw [digits]
    exact List.subset_append_left _ _
  have laidOut : ∃ parts : NumberParts, parts.Spells (NumberLayout.json.decimalText decimal)
      (first :: more) ((Nat.toDigits 10 decimal.digits).length + decimal.exponent - 1) := by
    simp only [NumberLayout.decimalText, significant]
    split
    · exact spells_positional nonzero all _
    · exact spells_scientific all _
  obtain ⟨parts, spells⟩ := laidOut
  refine ⟨parts, spells.spelled, spells.float, fun negative => ?_⟩
  have denoted : decimal.digits = naturalOfDigits (first :: more) * 10 ^ zeros := by
    rw [← natural_of_trailing_zeros, ← digits, natural_of_to_digits]
  have exponent : ((Nat.toDigits 10 decimal.digits).length + decimal.exponent - 1 + 1 -
      (first :: more).length : Int) = decimal.exponent + zeros := by
    rw [digits, List.length_append, List.length_replicate]
    omega
  rw [spells.value, exponent, ← Binary64.of_scientific_zeros, ← denoted]

theorem magnitude_parts (magnitude : Magnitude) :
    ∃ parts : NumberParts,
      parts.text = NumberLayout.json.decimalText (Decimal.shortest magnitude) ∧
      ¬(parts.fraction = [] ∧ parts.exponent = none) ∧
      ∀ negative, (parts.numeral negative).toBinary64 = .finite negative magnitude := by
  by_cases zero : magnitude.significand = 0
  · refine ⟨⟨'0', [], ['0'], none, by decide, .zeros 0, by simp, .zeros 1⟩, ?_,
      by simp, ?_⟩
    · rw [Decimal.shortest_of_zero zero]
      decide
    · intro negative
      have none : naturalOfDigits ['0', '0'] = 0 := by decide
      change Binary64.ofScientific negative (naturalOfDigits ['0', '0']) (-1) = _
      rw [none, Decimal.of_scientific_none negative zero]
  · obtain ⟨parts, spelled, float, value⟩ :=
      decimal_text_parts (Decimal.shortest_digits_pos zero)
    refine ⟨parts, spelled, float, fun negative => ?_⟩
    rw [value, Decimal.of_scientific_shortest]

theorem natural_parts (number : Nat) :
    ∃ parts : NumberParts, parts.text = Nat.toDigits 10 number ∧
      parts.whole = Nat.toDigits 10 number ∧ parts.fraction = [] ∧ parts.exponent = none := by
  rcases Nat.eq_zero_or_pos number with rfl | present
  · exact ⟨⟨'0', [], [], none, by decide, .zeros 0, by simp, .zeros 0⟩, by decide, by decide, rfl,
      rfl⟩
  · obtain ⟨first, more, digits, nonzero⟩ := to_digits_first present
    have decimal : AllDigits (first :: more) := by
      rw [← digits]
      exact .to_digits number
    refine ⟨⟨first, more, [], none, decimal first List.mem_cons_self,
      decimal.subset (List.subset_cons_self first more), fun zero => absurd zero nonzero,
      .zeros 0⟩, ?_, digits.symm, rfl, rfl⟩
    rw [digits]
    simp [text, whole, fractionText, exponentText]

end NumberParts

theorem read_finite (negative : Bool) (magnitude : Magnitude) {rest : List Char}
    (ended : EndsNumber rest) :
    Gives (readScalar (NumberLayout.json.text (.finite negative magnitude) ++ rest))
      (.float (.finite negative magnitude)) rest := by
  obtain ⟨parts, spelled, float, value⟩ := NumberParts.magnitude_parts magnitude
  have made : numberValue negative parts.whole parts.fraction parts.exponent =
      .ok (.float (.finite negative magnitude)) := by
    rw [numberValue, if_neg float, ← value negative]
    rfl
  have read := read_signed_gives ended made
  rw [spelled, ← List.append_assoc] at read
  exact read

theorem read_float (value : Binary64) {rest : List Char} (ended : EndsNumber rest) :
    Gives (readScalar (NumberLayout.json.text value ++ rest)) (.float value) rest := by
  cases value with
  | nan =>
      apply read_scalar_word
      simp [NumberLayout.text, NumberLayout.json, readWord?, wordValues, afterWord?]
  | infinity negative =>
      apply read_scalar_word
      cases negative <;>
        simp [NumberLayout.text, NumberLayout.signText, NumberLayout.json, readWord?, wordValues,
          afterWord?]
  | finite negative magnitude => exact read_finite negative magnitude ended

theorem sign_of_int (value : Int) :
    NumberLayout.signText (decide (value < 0)) ++ Nat.toDigits 10 value.natAbs =
      writeInt value := by
  rw [NumberLayout.signText, writeInt]
  simp only [decide_eq_true_iff]
  split <;> rfl

theorem read_int {value : Int} (short : (Nat.toDigits 10 value.natAbs).length ≤ integerDigitLimit)
    {rest : List Char} (ended : EndsNumber rest) :
    Gives (readScalar (writeInt value ++ rest)) (.int value) rest := by
  obtain ⟨parts, spelled, whole, fraction, exponent⟩ :=
    NumberParts.natural_parts value.natAbs
  have made : numberValue (decide (value < 0)) parts.whole parts.fraction parts.exponent =
      .ok (.int value) := by
    rw [numberValue, if_pos ⟨fraction, exponent⟩, whole, if_neg (Nat.not_lt.mpr short),
      natural_of_to_digits]
    simp only [signed_size]
  have read := read_signed_gives ended made
  rw [spelled, ← List.append_assoc, sign_of_int] at read
  exact read

end ExprLexer.Json
