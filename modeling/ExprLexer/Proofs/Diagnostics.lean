import ExprLexer.Proofs.Emissions
import ExprLexer.Proofs.QuotedText

/-!
Diagnostics. Messages of errors and records and the short forms of tokens are put together from
fixed words, integers, numbers and quoted texts, all of which print. A source can therefore put no
line break and no control character into any of them, and a long text is quoted by its beginning.
-/

namespace ExprLexer

open Text

namespace Text

theorem ascii_prints {character : Char} (above : 0x20 ≤ character.toNat)
    (below : character.toNat ≤ 0x7e) : isPrintable character = true := by
  rw [isPrintable, printableRanges, CodeRanges.contains, if_neg (by omega), if_pos below]

theorem digit_prints {character : Char} (digit : character.isDigit = true) :
    isPrintable character = true := by
  simp only [Char.isDigit, Bool.and_eq_true, decide_eq_true_eq, ge_iff_le,
    UInt32.le_iff_toNat_le] at digit
  have low : '0'.val.toNat = 48 := rfl
  have high : '9'.val.toNat = 57 := rfl
  have same : character.toNat = character.val.toNat := rfl
  exact ascii_prints (by omega) (by omega)

theorem digits_print (number : Nat) : Prints (Nat.toDigits 10 number) := by
  intro character member
  exact digit_prints (Nat.isDigit_of_mem_toDigits (by decide) (by decide) member)

theorem zeros_print (count : Nat) : Prints (List.replicate count '0') := by
  intro character member
  rw [List.eq_of_mem_replicate member]
  decide

theorem integer_text_prints (value : Int) : Prints (toString value).toList := by
  intro character member
  rcases integer_text_characters member with rfl | digit
  · decide
  · exact digit_prints digit

theorem natural_text_prints (number : Nat) : Prints (toString number).toList :=
  integer_text_prints number

theorem quoted_text_prints (text : CodeText) : Prints (quote text).toList := by
  rw [quote, String.toList_ofList]
  exact quote_prints text

theorem join_prints {first second : String} (firstPrints : Prints first.toList)
    (secondPrints : Prints second.toList) : Prints (first ++ second).toList := by
  rw [String.toList_append]
  exact prints_append.mpr ⟨firstPrints, secondPrints⟩

end Text

namespace NumberLayout

variable {layout : NumberLayout} {digits : List Char}

theorem with_point_prints (prints : Prints digits) (whole : Nat) :
    Prints (withPoint digits whole) := by
  have padded : Prints (digits ++ List.replicate (whole - digits.length) '0') :=
    prints_append.mpr ⟨prints, zeros_print _⟩
  have filled : ∀ part : List Char, Prints part → Prints (if part = [] then ['0'] else part) := by
    intro part printed
    split
    · decide
    · exact printed
  refine prints_append.mpr ⟨filled _ ?_, prints_cons.mpr ⟨by decide, filled _ ?_⟩⟩
  · exact fun character member => padded character (List.mem_of_mem_take member)
  · exact fun character member => padded character (List.mem_of_mem_drop member)

theorem positional_prints (prints : Prints digits) (leading : Int) :
    Prints (positional digits leading) := by
  cases leading with
  | ofNat power => exact with_point_prints prints (power + 1)
  | negSucc power => exact with_point_prints (prints_append.mpr ⟨zeros_print power, prints⟩) 0

theorem exponent_text_prints (exponent : Int) : Prints (layout.exponentText exponent) := by
  refine prints_cons.mpr ⟨?_, prints_append.mpr ⟨zeros_print _, digits_print _⟩⟩
  split <;> decide

theorem scientific_prints (mark : isPrintable layout.exponentMark = true)
    (prints : Prints digits) (leading : Int) : Prints (layout.scientific digits leading) := by
  refine prints_append.mpr ⟨?_, prints_cons.mpr ⟨mark, exponent_text_prints leading⟩⟩
  cases digits with
  | nil => decide
  | cons first others =>
      obtain ⟨firstPrints, othersPrint⟩ := prints_cons.mp prints
      cases others with
      | nil => exact prints
      | cons second others =>
          exact prints_cons.mpr ⟨firstPrints, prints_cons.mpr ⟨by decide, othersPrint⟩⟩

theorem decimal_text_prints (mark : isPrintable layout.exponentMark = true) (decimal : Decimal) :
    Prints (layout.decimalText decimal) := by
  have significant : Prints (trimEnd (· == '0') (Nat.toDigits 10 decimal.digits)) := by
    obtain ⟨dropped, split, _⟩ := trim_end_split (· == '0') (Nat.toDigits 10 decimal.digits)
    have prints := digits_print decimal.digits
    rw [split] at prints
    exact (prints_append.mp prints).1
  simp only [decimalText]
  split
  · exact positional_prints significant _
  · exact scientific_prints mark significant _

theorem number_text_prints (number : Binary64) : Prints (diagnostic.text number) := by
  have sign : ∀ negative, Prints (signText negative) := by decide
  cases number with
  | nan => decide
  | infinity negative => exact prints_append.mpr ⟨sign negative, by decide⟩
  | finite negative magnitude =>
      exact prints_append.mpr ⟨sign negative, decimal_text_prints (by decide) _⟩

end NumberLayout

def Payload.text? : Payload → Option CodeText
  | name text => some text
  | number _ => none
  | string text => some text
  | symbol text => some text

/-- What a diagnostic shows: the message of an error or a record, a token in short. -/
def Emission.diagnostic : Emission → String
  | .token delivered => delivered.shown
  | .error raised => raised.message
  | .record reported => reported.message

theorem record_message_prints (event : LogEvent) : Prints event.message.toList := by
  cases event with
  | unrecognizedCharacter character offset =>
      apply join_prints
      · apply join_prints
        · exact join_prints (by decide +kernel) (quoted_text_prints _)
        · decide +kernel
      · exact natural_text_prints offset
  | unterminatedString offset =>
      exact join_prints (by decide +kernel) (natural_text_prints offset)
  | abandonedString line column =>
      apply join_prints
      · apply join_prints
        · apply join_prints
          · exact join_prints (by decide +kernel) (natural_text_prints line)
          · decide +kernel
        · exact natural_text_prints column
      · decide +kernel

theorem fault_message_prints {fault : LexFault} (raised : fault = .unterminatedString ∨
    ∃ character, fault = .unrecognizedCharacter (String.singleton character)) :
    Prints fault.message.toList := by
  rcases raised with rfl | ⟨character, rfl⟩
  · decide +kernel
  · exact join_prints (by decide +kernel) (quoted_text_prints _)

theorem payload_shown_prints (payload : Payload) : Prints payload.shown.toList := by
  cases payload with
  | number value =>
      rw [Payload.shown, Binary64.toDiagnostic, String.toList_ofList]
      exact NumberLayout.number_text_prints value
  | name text | string text | symbol text => exact quoted_text_prints (Payload.abbreviate text)

theorem token_shown_prints (token : Token) : Prints token.shown.toList := by
  have label : Prints token.payload.kind.label.toList := by
    cases token.payload.kind <;> decide +kernel
  have payload : Prints
      ("Token(" ++ token.payload.kind.label ++ ", " ++ token.payload.shown).toList := by
    apply join_prints
    · exact join_prints (join_prints (by decide +kernel) label) (by decide +kernel)
    · exact payload_shown_prints token.payload
  have place : Prints
      ("Token(" ++ token.payload.kind.label ++ ", " ++ token.payload.shown ++ ", " ++
        toString token.location.line ++ ":" ++ toString token.location.column).toList := by
    apply join_prints
    · apply join_prints
      · exact join_prints (join_prints payload (by decide +kernel)) (integer_text_prints _)
      · decide +kernel
    · exact integer_text_prints _
  exact join_prints place (by decide +kernel)

theorem abbreviated (text : CodeText) :
    (Payload.abbreviate text).length ≤ 20 ∧
      (text.length ≤ 20 → Payload.abbreviate text = text) ∧
      (20 < text.length → Payload.abbreviate text = text.take 17 ++ ("..." : CodeText)) := by
  rw [Payload.abbreviate, Payload.shownLength]
  by_cases long : 20 < text.length
  · rw [if_pos long]
    refine ⟨?_, fun short => absurd long (Nat.not_lt.mpr short), fun _ => rfl⟩
    rw [List.length_append, List.length_take]
    exact Nat.add_le_add_right (Nat.min_le_left _ _) 3
  · rw [if_neg long]
    exact ⟨Nat.le_of_not_lt long, fun _ => rfl, fun other => absurd other long⟩

theorem text_shown {payload : Payload} {text : CodeText} (holds : payload.text? = some text) :
    payload.shown = String.ofList (quoteChars (Payload.abbreviate text)) := by
  cases payload with
  | number value => contradiction
  | name value | string value | symbol value =>
      cases holds
      rfl

/-- All that a lexer says prints, whatever stands in its source: no message of an error or a record
and no short form of a token holds a line break, a control or a character that turns the direction
of writing. A text in a token is shown by a quoted form, which stands for the text if that is
short, and else for its beginning and three points. -/
theorem diagnostics_print (source : String) (file : Option String) (config : LexConfig)
    (emission : Emission) (emitted : EmittedFrom source file config emission) :
    (∀ character ∈ emission.diagnostic.toList,
      isPrintable character = true ∧ steeringRanges.contains character.toNat = false) ∧
    ∀ token text, emission = .token token → token.payload.text? = some text →
      ∃ literal excerpt,
        token.shown = "Token(" ++ token.payload.kind.label ++ ", " ++ String.ofList literal ++
          ", " ++ toString token.location.line ++ ":" ++ toString token.location.column ++ ")" ∧
        unquote? literal = some excerpt ∧ excerpt.length ≤ 20 ∧
        (text.length ≤ 20 → excerpt = text) ∧
        (20 < text.length → excerpt = text.take 17 ++ ("..." : CodeText)) := by
  constructor
  · have prints : Prints emission.diagnostic.toList := by
      cases emission with
      | token delivered => exact token_shown_prints delivered
      | error raised =>
          obtain ⟨_, _, _, rfl, fault⟩ := emitted_error emitted
          exact fault_message_prints fault
      | record reported => exact record_message_prints reported
    intro character member
    exact ⟨prints character member, printable_steers_nothing (prints character member)⟩
  · intro token text _ holds
    refine ⟨quoteChars (Payload.abbreviate text), Payload.abbreviate text, ?_,
      unquote_quote _, abbreviated text⟩
    rw [Token.shown, text_shown holds]

/-- A string that clears a line and turns the writing around is shown by harmless characters, and
by its beginning only. -/
theorem steering_string_shown_harmless :
    let text : String := "red\x1b[31m\u202eterces\rand more"
    let token : Token := ⟨.string text, ⟨1, 1, 0, 26, none⟩⟩
    EmittedFrom ("\"" ++ text ++ "\"") none ⟨false⟩ (.token token) ∧
      (∀ character ∈ token.shown.toList,
        isPrintable character = true ∧ steeringRanges.contains character.toNat = false) ∧
      ∃ literal, token.shown = "Token(STRING, " ++ String.ofList literal ++ ", 1:1)" ∧
        unquote? literal = some ↑"red\x1b[31m\u202eterces\ra..." := by
  intro text token
  have delivered : EmittedFrom ("\"" ++ text ++ "\"") none ⟨false⟩ (.token token) :=
    .call .fresh (.read (.token (by decide +kernel)))
  obtain ⟨prints, texts⟩ := diagnostics_print _ none ⟨false⟩ (.token token) delivered
  obtain ⟨literal, excerpt, shown, read, _, _, long⟩ := texts token text rfl rfl
  have abridged : excerpt = ↑"red\x1b[31m\u202eterces\ra..." := by
    rw [long (by decide +kernel)]
    decide +kernel
  refine ⟨delivered, prints, literal, ?_, ?_⟩
  · have front : "Token(" ++ token.payload.kind.label ++ ", " = "Token(STRING, " := by
      decide +kernel
    have back : ", " ++ (toString token.location.line ++
        (":" ++ (toString token.location.column ++ ")"))) = ", 1:1)" := by
      decide +kernel
    rw [shown, front]
    simp only [String.append_assoc, back]
  · rw [read, abridged]

end ExprLexer
