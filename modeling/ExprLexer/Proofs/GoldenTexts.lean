import ExprLexer.Proofs.Coverage
import ExprLexer.Proofs.NumberText
import ExprLexer.Proofs.TokenRecords

/-!
The text that is written of tokens stands for them: two runs give the same text exactly if they
delivered equal tokens. That text tells all payloads apart, while equality of tokens takes the two
zeros for one and the value that is no number for nothing, so the two agree because no lexeme has
such a value.
-/

namespace ExprLexer

/-- A number that bears no sign, zero and infinity included. -/
def Binary64.Unsigned : Binary64 → Prop
  | nan => False
  | infinity negative => negative = false
  | finite negative _ => negative = false

theorem Binary64.of_nearest_unsigned (nearest : Option Magnitude) :
    (ofNearest false nearest).Unsigned := by
  cases nearest with
  | none => rfl
  | some magnitude => rfl

theorem Binary64.of_scientific_unsigned (digits : Nat) (exponent : Int) :
    (ofScientific false digits exponent).Unsigned := by
  cases exponent with
  | ofNat power => exact of_nearest_unsigned _
  | negSucc power => exact of_nearest_unsigned _

/-- Of numbers without a sign the numerically equal ones are the same. -/
theorem Binary64.numerically_equal_iff {value other : Binary64} (unsigned : value.Unsigned)
    (otherUnsigned : other.Unsigned) : value.numericallyEqual other = true ↔ value = other := by
  cases value with
  | nan => contradiction
  | infinity negative =>
      cases other with
      | nan => contradiction
      | infinity negative' => simp [numericallyEqual]
      | finite negative' magnitude' => simp [numericallyEqual]
  | finite negative magnitude =>
      cases other with
      | nan => contradiction
      | infinity negative' => simp [numericallyEqual]
      | finite negative' magnitude' =>
          have sign : negative = false := unsigned
          have otherSign : negative' = false := otherUnsigned
          simp [numericallyEqual, sign, otherSign]

theorem Numeral.value_unsigned {numeral : Numeral} (plain : numeral.negative = false) :
    numeral.toBinary64.Unsigned := by
  rw [toBinary64, plain]
  exact Binary64.of_scientific_unsigned _ _

namespace Payload

def Unsigned : Payload → Prop
  | number value => value.Unsigned
  | name _ | string _ | symbol _ => True

theorem agrees_iff {payload other : Payload} (unsigned : payload.Unsigned)
    (otherUnsigned : other.Unsigned) : payload.agrees other = true ↔ payload = other := by
  cases payload with
  | number value =>
      cases other with
      | number value' =>
          rw [agrees, Binary64.numerically_equal_iff unsigned otherUnsigned, number.injEq]
      | name text' => simp [agrees]
      | string text' => simp [agrees]
      | symbol text' => simp [agrees]
  | name text => cases other <;> simp [agrees]
  | string text => cases other <;> simp [agrees]
  | symbol text => cases other <;> simp [agrees]

/-- A lexeme has no sign, so neither has the number that it spells. -/
theorem lexeme_spells_unsigned {payload : Payload} {span : List Char}
    (lexeme : IsLexeme payload.kind span) (spelled : payload.SpelledBy span) :
    payload.Unsigned := by
  cases payload with
  | number value =>
      cases lexeme with
      | integer present decimal =>
          have read := Numeral.read_integer_lexeme present decimal
          have same := Option.some.inj (spelled.symm.trans read)
          rw [Unsigned, same]
          exact Numeral.value_unsigned rfl
      | pointed present wholeDecimal fractionDecimal =>
          have read := Numeral.read_pointed_lexeme present wholeDecimal fractionDecimal
          have same := Option.some.inj (spelled.symm.trans read)
          rw [Unsigned, same]
          exact Numeral.value_unsigned rfl
  | name text => trivial
  | string text => trivial
  | symbol text => trivial

/-- A lexeme holds characters only and spells a number that is one, so its payload can be written
and read back. -/
theorem lexeme_spells_well_formed {payload : Payload} {span : List Char}
    (lexeme : IsLexeme payload.kind span) (spelled : payload.SpelledBy span) :
    payload.WellFormed := by
  cases payload with
  | name text =>
      rw [show text = .ofChars span from spelled]
      exact Json.unpaired_of_chars span
  | number value =>
      have unsigned : value.Unsigned := lexeme_spells_unsigned lexeme spelled
      intro absent
      rw [absent] at unsigned
      exact unsigned
  | string text =>
      obtain ⟨body, given, _⟩ := spelled
      rw [given]
      exact Json.unpaired_of_chars body
  | symbol text =>
      cases lexeme with
      | @symbol character listed =>
          rw [show text = [.char character] from spelled]
          exact symbol_text_iff.mpr (listed_iff_symbol.mp listed)

theorem eq_of_kind_and_json {payload other : Payload} (sameKind : payload.kind = other.kind)
    (sameJson : payload.toJson = other.toJson) : payload = other := by
  cases payload <;> cases other <;> simp_all [kind, toJson]

end Payload

theorem TokenKind.label_injective {kind other : TokenKind}
    (same : (kind.label : Text.CodeText) = other.label) : kind = other := by
  have found := of_label_label kind
  rw [same, of_label_label] at found
  exact (Option.some.inj found).symm

theorem Json.to_text_injective {value other : Json} (spacing : Spacing) (readable : Readable value)
    (otherReadable : Readable other) (same : toText spacing value = toText spacing other) :
    value = other := by
  have back := read_to_text readable spacing
  rw [same, read_to_text otherReadable spacing] at back
  exact (Except.ok.inj back).symm

theorem tokens_spelled {source : String} {file : Option String} {config : LexConfig} {token : Token}
    (delivered : token ∈ (tokenize source file config).tokens) :
    ∃ span, IsLexeme token.payload.kind span ∧ token.payload.SpelledBy span := by
  rw [tokenize, Lexer.of_source_at_place] at delivered
  have within := Nat.zero_le source.toList.length
  obtain ⟨stop, _, _, chain, _, _, _⟩ := drain_at_place file config within
  obtain ⟨_, span, _, _, longest, spelled, _⟩ := chain_member chain within delivered
  exact ⟨span, longest.lexeme, spelled⟩

theorem tokens_unsigned (source : String) (file : Option String) (config : LexConfig) :
    ∀ token ∈ (tokenize source file config).tokens, token.payload.Unsigned := by
  intro token delivered
  obtain ⟨span, lexeme, spelled⟩ := tokens_spelled delivered
  exact Payload.lexeme_spells_unsigned lexeme spelled

theorem tokens_well_formed (source : String) (file : Option String) (config : LexConfig) :
    ∀ token ∈ (tokenize source file config).tokens, token.payload.WellFormed := by
  intro token delivered
  obtain ⟨span, lexeme, spelled⟩ := tokens_spelled delivered
  exact Payload.lexeme_spells_well_formed lexeme spelled

namespace Token

theorem to_record_eq_iff {token other : Token} :
    toRecord token = toRecord other ↔ token.payload = other.payload := by
  constructor
  · intro same
    simp only [toRecord, Json.obj.injEq, List.cons.injEq, Prod.mk.injEq, Json.str.injEq, true_and,
      and_true] at same
    apply Payload.eq_of_kind_and_json
    · exact TokenKind.label_injective same.1
    · exact same.2
  · intro same
    rw [toRecord, toRecord, same]

theorem to_records_eq_iff {tokens others : List Token} :
    tokens.map toRecord = others.map toRecord ↔
      tokens.map Token.payload = others.map Token.payload := by
  induction tokens generalizing others with
  | nil => cases others <;> simp
  | cons token tokens induction =>
      cases others with
      | nil => simp
      | cons other others => simp [to_record_eq_iff, induction]

/-- The written text tells apart whatever the payloads tell apart. -/
theorem write_list_eq_iff (spacing : Json.Spacing) {tokens others : List Token}
    (wellFormed : ∀ token ∈ tokens, token.payload.WellFormed)
    (othersWellFormed : ∀ other ∈ others, other.payload.WellFormed) :
    writeList spacing tokens = writeList spacing others ↔
      tokens.map Token.payload = others.map Token.payload := by
  constructor
  · intro same
    have arrays := Json.to_text_injective spacing (records_readable wellFormed)
      (records_readable othersWellFormed) same
    exact to_records_eq_iff.mp (Json.arr.inj arrays)
  · intro same
    rw [writeList, writeList, to_records_eq_iff.mpr same]

theorem all_agree_iff {tokens others : List Token}
    (unsigned : ∀ token ∈ tokens, token.payload.Unsigned)
    (othersUnsigned : ∀ other ∈ others, other.payload.Unsigned) :
    allAgree tokens others = true ↔ tokens.map Token.payload = others.map Token.payload := by
  induction tokens generalizing others with
  | nil => cases others <;> simp [allAgree]
  | cons token tokens induction =>
      cases others with
      | nil => simp [allAgree]
      | cons other others =>
          have heads := Payload.agrees_iff (unsigned token List.mem_cons_self)
            (othersUnsigned other List.mem_cons_self)
          have tails := induction
            (fun later member => unsigned later (List.mem_cons_of_mem token member))
            (fun later member => othersUnsigned later (List.mem_cons_of_mem other member))
          rw [allAgree, Bool.and_eq_true, agrees, heads, tails, List.map_cons, List.map_cons,
            List.cons.injEq]

/-- Runs over any two sources in any modes are written alike, under any indent, exactly if their
tokens are equal one by one; and no number that either delivers bears a sign or is no number. The
tokens before an error count like those of a run that has none. -/
theorem golden_texts_decide_equality (source other : String) (file otherFile : Option String)
    (config otherConfig : LexConfig) (indent : Option Int) :
    (writeList (.ofIndent indent) (tokenize source file config).tokens =
          writeList (.ofIndent indent) (tokenize other otherFile otherConfig).tokens ↔
        allAgree (tokenize source file config).tokens
          (tokenize other otherFile otherConfig).tokens = true) ∧
      ∀ token ∈ (tokenize source file config).tokens, ∀ value,
        token.payload = .number value → value.Unsigned := by
  have unsigned := tokens_unsigned source file config
  have otherUnsigned := tokens_unsigned other otherFile otherConfig
  constructor
  · rw [write_list_eq_iff _ (tokens_well_formed source file config)
      (tokens_well_formed other otherFile otherConfig), all_agree_iff unsigned otherUnsigned]
  · intro token delivered value valued
    have plain := unsigned token delivered
    rwa [valued] at plain

end Token

end ExprLexer
