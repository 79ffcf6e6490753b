import ExprLexer.Proofs.NearestMagnitude
import ExprLexer.Proofs.Refusals
import ExprLexer.Proofs.TokenRecords
import Mathlib.Data.List.Forall2

/-!
Which texts hold tokens. A record is accepted on three members that it must have, whatever else it
holds and in whatever order. Refusals come in the order of the checks, each on the condition that
those before it pass. A list is accepted whole or not at all, and the text has to be readable to
its end before any record counts.
-/

namespace ExprLexer

open Text (CodeText)

inductive Json.Fits : TokenKind → Json → Prop where
  | name (text : CodeText) : Fits .name (.str text)
  | string (text : CodeText) : Fits .string (.str text)
  | symbol {text : CodeText} (listed : text ∈ symbolTexts) : Fits .symbol (.str text)
  | float (value : Binary64) : Fits .number (.float value)
  | int {value : Int} (small : value.natAbs < Binary64.overflowBound) : Fits .number (.int value)

/-- A value that says what a payload says; an integer says the nearest number. -/
inductive Json.Tells : Json → Payload → Prop where
  | name (text : CodeText) : Tells (.str text) (.name text)
  | string (text : CodeText) : Tells (.str text) (.string text)
  | symbol (text : CodeText) : Tells (.str text) (.symbol text)
  | float (value : Binary64) : Tells (.float value) (.number value)
  | int {value : Int} {number : Binary64} (nearest : number.IsNearestTo value) :
      Tells (.int value) (.number number)

namespace Token

/-- An object with the tag, the label of a kind and a value that fits the kind. -/
def Acceptable : Json → Prop
  | .obj members =>
      members.lookup ↑"_type" = some (.str "Token") ∧
        ∃ kind : TokenKind, members.lookup ↑"type" = some (.str kind.label) ∧
          ∃ value, members.lookup ↑"value" = some value ∧ value.Fits kind
  | _ => False

def ToldBy : Json → Token → Prop
  | .obj members, token =>
      members.lookup ↑"type" = some (.str token.payload.kind.label) ∧
        (∃ value, members.lookup ↑"value" = some value ∧ value.Tells token.payload) ∧
          token.location = .unknown
  | _, _ => False

inductive ValueRefused : TokenKind → Json → RecordError → Prop where
  | notNumber {value : Json} (noInteger : ∀ number, value ≠ .int number)
      (noFloat : ∀ number, value ≠ .float number) :
      ValueRefused .number value (.notNumber value)
  | tooLarge {value : Int} (large : Binary64.overflowBound ≤ value.natAbs) :
      ValueRefused .number (.int value) (.unfit .integerTooLarge)
  | notText {kind : TokenKind} {value : Json} (textual : kind ≠ .number)
      (noText : ∀ text, value ≠ .str text) : ValueRefused kind value (.notText kind value)
  | notSymbol {text : CodeText} (unlisted : text ∉ symbolTexts) :
      ValueRefused .symbol (.str text) (.unfit (.notSymbol text))

/-- Why a record is refused: the first check that fails, and that those before it pass. -/
inductive Refused : Json → RecordError → Prop where
  | notObject {value : Json} (other : ∀ members, value ≠ .obj members) :
      Refused value (.notObject value)
  | missingTag {members : List (CodeText × Json)}
      (absent : members.lookup ↑"_type" = none ∨ members.lookup ↑"_type" = some .null) :
      Refused (.obj members) .missingTag
  | unknownTag {members : List (CodeText × Json)} {tag : Json}
      (found : members.lookup ↑"_type" = some tag) (present : tag ≠ .null)
      (unknown : tag ≠ .str "Token") : Refused (.obj members) (.unknownTag tag)
  | unknownKind {members : List (CodeText × Json)}
      (tagged : members.lookup ↑"_type" = some (.str "Token"))
      (unknown : ∀ kind : TokenKind, members.lookup ↑"type" ≠ some (.str kind.label)) :
      Refused (.obj members) (.unknownKind ((members.lookup ↑"type").getD .null))
  | missingValue {members : List (CodeText × Json)} {kind : TokenKind}
      (tagged : members.lookup ↑"_type" = some (.str "Token"))
      (named : members.lookup ↑"type" = some (.str kind.label))
      (absent : members.lookup ↑"value" = none) : Refused (.obj members) .missingValue
  | value {members : List (CodeText × Json)} {kind : TokenKind} {value : Json}
      {error : RecordError} (tagged : members.lookup ↑"_type" = some (.str "Token"))
      (named : members.lookup ↑"type" = some (.str kind.label))
      (found : members.lookup ↑"value" = some value)
      (refused : ValueRefused kind value error) : Refused (.obj members) error

section Values

variable {kind : TokenKind} {value : Json}

theorem symbol_of_unlisted {text : CodeText} (unlisted : text ∉ symbolTexts) :
    symbol text = .error (.notSymbol text) := by
  unfold symbol
  split
  · rename_i character
    have noSymbol : ¬isSymbol character = true := by
      rw [← symbol_text_iff]
      exact unlisted
    rw [if_neg noSymbol]
  · rfl

theorem value_accepted (fits : value.Fits kind) :
    ∃ payload, ofKindAndValue kind value = .ok (ofPayload payload) ∧ payload.kind = kind ∧
      value.Tells payload := by
  cases fits with
  | name text => exact ⟨.name text, rfl, rfl, .name text⟩
  | string text => exact ⟨.string text, rfl, rfl, .string text⟩
  | @symbol text listed =>
      refine ⟨.symbol text, ?_, rfl, .symbol text⟩
      rw [ofKindAndValue, symbol_of_listed listed]
      rfl
  | float value => exact ⟨.number value, rfl, rfl, .float value⟩
  | @int value small =>
      cases found : Binary64.ofInt? value with
      | none =>
          have large := (Binary64.of_int_none_iff value).mp found
          omega
      | some number =>
          refine ⟨.number number, ?_, rfl, .int (Binary64.of_int_nearest found)⟩
          rw [ofKindAndValue, ofNumberValue, integer, found]
          rfl

theorem value_refused {error : RecordError} (refused : ValueRefused kind value error) :
    ofKindAndValue kind value = .error error := by
  cases refused with
  | notNumber noInteger noFloat =>
      cases value with
      | int number => exact absurd rfl (noInteger number)
      | float number => exact absurd rfl (noFloat number)
      | null | bool _ | str _ | arr _ | obj _ => rfl
  | tooLarge large => exact value_overflow_iff.mpr ⟨rfl, _, rfl, large⟩
  | notText textual noText =>
      cases value with
      | str text => exact absurd rfl (noText text)
      | null | bool _ | int _ | float _ | arr _ | obj _ =>
          cases kind with
          | number => exact absurd rfl textual
          | name | string | symbol => rfl
  | @notSymbol text unlisted =>
      rw [ofKindAndValue, symbol_of_unlisted unlisted]
      rfl

/-- Among all values of all kinds there is none that neither fits nor is refused. -/
theorem value_decided (kind : TokenKind) (value : Json) :
    value.Fits kind ∨ ∃ error, ValueRefused kind value error := by
  cases kind with
  | number =>
      cases value with
      | int number =>
          rcases Nat.lt_or_ge number.natAbs Binary64.overflowBound with small | large
          · exact Or.inl (.int small)
          · exact Or.inr ⟨_, .tooLarge large⟩
      | float number => exact Or.inl (.float number)
      | null | bool _ | str _ | arr _ | obj _ => exact Or.inr ⟨_, .notNumber nofun nofun⟩
  | name =>
      cases value with
      | str text => exact Or.inl (.name text)
      | null | bool _ | int _ | float _ | arr _ | obj _ => exact Or.inr ⟨_, .notText nofun nofun⟩
  | string =>
      cases value with
      | str text => exact Or.inl (.string text)
      | null | bool _ | int _ | float _ | arr _ | obj _ => exact Or.inr ⟨_, .notText nofun nofun⟩
  | symbol =>
      cases value with
      | str text =>
          by_cases listed : text ∈ symbolTexts
          · exact Or.inl (.symbol listed)
          · exact Or.inr ⟨_, .notSymbol listed⟩
      | null | bool _ | int _ | float _ | arr _ | obj _ => exact Or.inr ⟨_, .notText nofun nofun⟩

end Values

section Records

variable {members : List (CodeText × Json)} {kind : TokenKind} {record : Json} {error : RecordError}

theorem of_record_named (tagged : members.lookup ↑"_type" = some (.str "Token"))
    (named : members.lookup ↑"type" = some (.str kind.label)) :
    ofRecord (.obj members) = (members.lookup ↑"value").elim (.error .missingValue)
      (ofKindAndValue kind) := by
  rw [ofRecord, check_tag_iff.mpr tagged, record_kind_iff.mpr named]
  cases members.lookup ↑"value" <;> rfl

theorem record_accepted (acceptable : Acceptable record) :
    ∃ token, ofRecord record = .ok token ∧ ToldBy record token := by
  cases record with
  | obj members =>
      obtain ⟨tagged, kind, named, value, found, fits⟩ := acceptable
      obtain ⟨payload, given, kinded, tells⟩ := value_accepted fits
      refine ⟨ofPayload payload, ?_, ?_, ⟨value, found, tells⟩, rfl⟩
      · rw [of_record_named tagged named, found]
        exact given
      · rw [named, ← kinded]
        rfl
  | null | bool _ | int _ | float _ | str _ | arr _ => contradiction

theorem unknown_tag_refused {tag : Json} (found : members.lookup ↑"_type" = some tag)
    (present : tag ≠ .null) (unknown : tag ≠ .str "Token") :
    checkTag members = .error (.unknownTag tag) := by
  rw [checkTag, found]
  cases tag with
  | null => exact absurd rfl present
  | str text =>
      have other : text ≠ Token.tag := fun same => unknown (congrArg Json.str same)
      exact if_neg other
  | bool _ | int _ | float _ | arr _ | obj _ => rfl

theorem unknown_kind_refused
    (unknown : ∀ kind : TokenKind, members.lookup ↑"type" ≠ some (.str kind.label)) :
    recordKind members = .error (.unknownKind ((members.lookup ↑"type").getD .null)) := by
  rw [recordKind]
  cases found : members.lookup ↑"type" with
  | none => rfl
  | some label =>
      cases label with
      | str text =>
          cases kinded : TokenKind.ofLabel? text with
          | none => simp only [kinded, Option.getD_some]
          | some kind =>
              rw [TokenKind.of_label_iff.mp kinded] at found
              exact absurd found (unknown kind)
      | null | bool _ | int _ | float _ | arr _ | obj _ => rfl

theorem record_refused (refused : Refused record error) : ofRecord record = .error error := by
  cases refused with
  | notObject other =>
      cases record with
      | obj members => exact absurd rfl (other members)
      | null | bool _ | int _ | float _ | str _ | arr _ => rfl
  | missingTag absent =>
      rw [ofRecord, checkTag]
      rcases absent with absent | absent
      · rw [absent]
        rfl
      · rw [absent]
        rfl
  | unknownTag found present unknown =>
      rw [ofRecord, unknown_tag_refused found present unknown]
      rfl
  | unknownKind tagged unknown =>
      rw [ofRecord, check_tag_iff.mpr tagged, unknown_kind_refused unknown]
      rfl
  | missingValue tagged named absent =>
      rw [of_record_named tagged named, absent]
      rfl
  | value tagged named found refused =>
      rw [of_record_named tagged named, found]
      exact value_refused refused

/-- A tag that is null is missing, and that is told before anything of the kind. -/
example : ofRecord (.obj [("type", .bool true), ("_type", .null)]) = .error .missingTag := rfl

/-- The checks leave no record undecided. -/
theorem record_decided (record : Json) : Acceptable record ∨ ∃ error, Refused record error := by
  cases record with
  | obj members =>
      by_cases tagged : members.lookup ↑"_type" = some (.str "Token")
      · by_cases named : ∃ kind : TokenKind, members.lookup ↑"type" = some (.str kind.label)
        · obtain ⟨kind, named⟩ := named
          cases found : members.lookup ↑"value" with
          | none => exact Or.inr ⟨_, .missingValue tagged named found⟩
          | some value =>
              rcases value_decided kind value with fits | ⟨error, refused⟩
              · exact Or.inl ⟨tagged, kind, named, value, found, fits⟩
              · exact Or.inr ⟨error, .value tagged named found refused⟩
        · exact Or.inr ⟨_, .unknownKind tagged (not_exists.mp named)⟩
      · right
        cases found : members.lookup ↑"_type" with
        | none => exact ⟨_, .missingTag (Or.inl found)⟩
        | some tag =>
            by_cases null : tag = .null
            · rw [null] at found
              exact ⟨_, .missingTag (Or.inr found)⟩
            · have other : tag ≠ .str "Token" := by
                intro same
                rw [same] at found
                exact tagged found
              exact ⟨_, .unknownTag found null other⟩
  | null | bool _ | int _ | float _ | str _ | arr _ => exact Or.inr ⟨_, .notObject nofun⟩

theorem record_accepted_iff : (∃ token, ofRecord record = .ok token) ↔ Acceptable record := by
  constructor
  · intro accepted
    obtain ⟨token, given⟩ := accepted
    rcases record_decided record with acceptable | ⟨error, refused⟩
    · exact acceptable
    · rw [record_refused refused] at given
      contradiction
  · intro acceptable
    obtain ⟨token, given, _⟩ := record_accepted acceptable
    exact ⟨token, given⟩

theorem record_refused_iff : ofRecord record = .error error ↔ Refused record error := by
  constructor
  · intro failed
    rcases record_decided record with acceptable | ⟨other, refused⟩
    · obtain ⟨token, given, _⟩ := record_accepted acceptable
      rw [failed] at given
      contradiction
    · rw [record_refused refused] at failed
      rw [← Except.error.inj failed]
      exact refused
  · exact record_refused

theorem record_tells {token : Token} (given : ofRecord record = .ok token) :
    ToldBy record token := by
  obtain ⟨other, same, told⟩ := record_accepted (record_accepted_iff.mp ⟨token, given⟩)
  rw [given] at same
  rw [Except.ok.inj same]
  exact told

theorem record_by_members {others : List (CodeText × Json)}
    (same : ∀ key ∈ (["_type", "type", "value"] : List CodeText),
      members.lookup key = others.lookup key) :
    ofRecord (.obj members) = ofRecord (.obj others) := by
  have tag := same ↑"_type" (by decide)
  have kind := same ↑"type" (by decide)
  have value := same ↑"value" (by decide)
  simp only [ofRecord, checkTag, recordKind, tag, kind, value]

end Records

section Lists

theorem map_accepted_iff {Element Value Error : Type} {read : Element → Except Error Value}
    {elements : List Element} {values : List Value} :
    elements.mapM read = .ok values ↔
      List.Forall₂ (fun element value => read element = .ok value) elements values := by
  induction elements generalizing values with
  | nil =>
      rw [List.forall₂_nil_left_iff]
      exact ⟨fun given => (Except.ok.inj given).symm, fun empty => congrArg Except.ok empty.symm⟩
  | cons element elements induction =>
      rw [List.mapM_cons, List.forall₂_cons_left_iff]
      cases head : read element with
      | error error =>
          constructor
          · nofun
          · intro accepted
            obtain ⟨value, _, given, _⟩ := accepted
            contradiction
      | ok value =>
          cases tail : elements.mapM read with
          | error error =>
              constructor
              · nofun
              · intro accepted
                obtain ⟨_, later, _, each, _⟩ := accepted
                rw [induction.mpr each] at tail
                contradiction
          | ok later =>
              constructor
              · intro given
                exact ⟨value, later, rfl, induction.mp tail, (Except.ok.inj given).symm⟩
              · intro accepted
                obtain ⟨other, others, same, each, rfl⟩ := accepted
                rw [induction.mpr each] at tail
                rw [Except.ok.inj same, Except.ok.inj tail]
                rfl

variable {text : String} {records : List Json} {tokens : List Token} {error : TokenListError}

theorem records_accepted_iff :
    ofRecords (.arr records) = .ok tokens ↔
      List.Forall₂ (fun record token => ofRecord record = .ok token) records tokens := by
  rw [← map_accepted_iff, ofRecords]
  cases records.mapM ofRecord <;> simp [Except.mapError]

theorem records_refused_iff :
    ofRecords (.arr records) = .error error ↔
      ∃ before record after refusal, records = before ++ record :: after ∧
        (∀ earlier ∈ before, Acceptable earlier) ∧ Refused record refusal ∧
          error = .record refusal := by
  simp only [← record_accepted_iff, ← record_refused_iff]
  constructor
  · intro failed
    cases refused : records.mapM ofRecord with
    | ok tokens =>
        rw [ofRecords, refused] at failed
        contradiction
    | error refusal =>
        rw [ofRecords, refused] at failed
        obtain ⟨before, record, after, split, accepted, decided⟩ := map_refused_iff.mp refused
        exact ⟨before, record, after, refusal, split, accepted, decided,
          (Except.error.inj failed).symm⟩
  · intro found
    obtain ⟨before, record, after, refusal, split, accepted, decided, same⟩ := found
    have refused := map_refused_iff.mpr ⟨before, record, after, split, accepted, decided⟩
    rw [ofRecords, refused, same]
    rfl

theorem records_decided (records : List Json) :
    (∃ tokens, ofRecords (.arr records) = .ok tokens) ↔
      ∀ record ∈ records, Acceptable record := by
  constructor
  · intro accepted
    obtain ⟨tokens, given⟩ := accepted
    have each := (records_accepted_iff.mp given).imp fun record token read =>
      And.intro (record_accepted_iff.mp ⟨token, read⟩) read
    exact ((List.forall₂_and_left _ _).mp each).1
  · intro acceptable
    cases failed : ofRecords (.arr records) with
    | ok tokens => exact ⟨tokens, rfl⟩
    | error error =>
        obtain ⟨before, record, after, refusal, split, _, refused, _⟩ :=
          records_refused_iff.mp failed
        have member : record ∈ records := by
          rw [split]
          exact List.mem_append_right before List.mem_cons_self
        obtain ⟨token, given⟩ := record_accepted_iff.mpr (acceptable record member)
        rw [record_refused refused] at given
        contradiction

theorem text_accepted_iff :
    readList text = .ok tokens ↔
      ∃ records, Json.read text = .ok (.arr records) ∧ ofRecords (.arr records) = .ok tokens := by
  rw [readList]
  cases Json.read text with
  | error fault => simp
  | ok value => cases value <;> simp [ofRecords]

theorem text_refused_iff :
    readList text = .error error ↔
      (∃ fault, Json.read text = .error fault ∧ error = .unreadable fault) ∨
      (∃ value, Json.read text = .ok value ∧ (∀ records, value ≠ .arr records) ∧
        error = .notArray value) ∨
      ∃ records, Json.read text = .ok (.arr records) ∧
        ofRecords (.arr records) = .error error := by
  rw [readList]
  cases Json.read text with
  | error fault => simp [eq_comm]
  | ok value => cases value <;> simp [ofRecords, eq_comm]

end Lists

/-- Which texts hold tokens and which tokens they hold, and what is told of all others: that they
cannot be read, else that they hold no array, else why the first element is refused that is. Of a
repeated key the last value counts, and of an object three members do. -/
theorem text_holds_tokens (text : String) :
    ((∃ tokens, readList text = .ok tokens) ↔
      ∃ records, Json.read text = .ok (.arr records) ∧ ∀ record ∈ records, Acceptable record) ∧
    (∀ tokens, readList text = .ok tokens →
      ∃ records, Json.read text = .ok (.arr records) ∧ List.Forall₂ ToldBy records tokens) ∧
    (∀ error, readList text = .error error ↔
      (∃ fault, Json.read text = .error fault ∧ error = .unreadable fault) ∨
      (∃ value, Json.read text = .ok value ∧ (∀ records, value ≠ .arr records) ∧
        error = .notArray value) ∨
      ∃ before record after refusal, Json.read text = .ok (.arr (before ++ record :: after)) ∧
        (∀ earlier ∈ before, Acceptable earlier) ∧ Refused record refusal ∧
          error = .record refusal) ∧
    (∀ written spacing, (∀ member ∈ written, Json.Unpaired member.1) →
      (∀ member ∈ written, member.2.Readable) →
      ∃ members, Json.read (Json.toText spacing (.obj written)) = .ok (.obj members) ∧
        ∀ key, members.lookup key = written.reverse.lookup key) ∧
    ∀ members others : List (CodeText × Json),
      (∀ key ∈ (["_type", "type", "value"] : List CodeText),
        members.lookup key = others.lookup key) →
        ofRecord (.obj members) = ofRecord (.obj others) := by
  refine ⟨?_, ?_, ?_, ?_, fun members others => record_by_members⟩
  · simp only [text_accepted_iff, ← records_decided]
    exact ⟨fun ⟨tokens, records, read, given⟩ => ⟨records, read, tokens, given⟩,
      fun ⟨records, read, tokens, given⟩ => ⟨tokens, records, read, given⟩⟩
  · intro tokens accepted
    obtain ⟨records, read, given⟩ := text_accepted_iff.mp accepted
    have each := records_accepted_iff.mp given
    exact ⟨records, read, each.imp fun record token => record_tells⟩
  · intro error
    rw [text_refused_iff]
    apply or_congr Iff.rfl
    apply or_congr Iff.rfl
    constructor
    · intro refused
      obtain ⟨records, read, failed⟩ := refused
      obtain ⟨before, record, after, refusal, rfl, rest⟩ := records_refused_iff.mp failed
      exact ⟨before, record, after, refusal, read, rest⟩
    · intro refused
      obtain ⟨before, record, after, refusal, read, rest⟩ := refused
      exact ⟨_, read, records_refused_iff.mpr ⟨before, record, after, refusal, rfl, rest⟩⟩
  · intro written spacing keys readable
    obtain ⟨members, collected, last⟩ := Json.lookup_of_members written
    refine ⟨members, ?_, last⟩
    rw [Json.read_repeated_members keys readable, collected]

end Token

end ExprLexer
