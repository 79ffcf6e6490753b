import ExprLexer.Proofs.JsonValues
import ExprLexer.Proofs.OverflowBound
import ExprLexer.Token.Record

/-!
Refusals. Each check of a record passes on a condition of its own and otherwise tells of a bad
value. What remains is one other failure: the checks pass, and the integer of a number token is
too large to be a number. In a list of records the first that is refused decides.
-/

namespace ExprLexer

open Text (CodeText)

theorem TokenKind.of_label_iff {label : CodeText} {kind : TokenKind} :
    ofLabel? label = some kind ↔ label = kind.label := by
  constructor
  · intro found
    have tested : ((kind.label : CodeText) == label) = true :=
      @List.find?_some _ (fun kind : TokenKind => (kind.label : CodeText) == label) _ _ found
    exact (beq_iff_eq.mp tested).symm
  · rintro rfl
    exact of_label_label kind

theorem map_refused_iff {Element Value Error : Type} {read : Element → Except Error Value}
    {elements : List Element} {error : Error} :
    elements.mapM read = .error error ↔
      ∃ before element after, elements = before ++ element :: after ∧
        (∀ earlier ∈ before, ∃ value, read earlier = .ok value) ∧ read element = .error error := by
  induction elements with
  | nil =>
      constructor
      · nofun
      · rintro ⟨before, element, after, split, _⟩
        exact absurd split.symm (List.append_ne_nil_of_right_ne_nil before (List.cons_ne_nil _ _))
  | cons first elements induction =>
      simp only [List.mapM_cons, List.cons_eq_append_iff]
      cases head : read first with
      | error other =>
          simp only [bind, Except.bind, Except.error.injEq]
          constructor
          · rintro rfl
            exact ⟨[], first, elements, Or.inl ⟨rfl, rfl⟩, nofun, head⟩
          · rintro ⟨before, element, after, ⟨rfl, split⟩ | ⟨tail, rfl, _⟩, accepted, refused⟩
            · rw [(List.cons.inj split).1, head] at refused
              exact Except.error.inj refused
            · obtain ⟨value, read⟩ := accepted first List.mem_cons_self
              rw [head] at read
              contradiction
      | ok value =>
          have later : (do
              let value ← Except.ok value
              let values ← elements.mapM read
              pure (value :: values)) = Except.error error ↔ elements.mapM read = .error error := by
            cases elements.mapM read with
            | error other => rfl
            | ok values => exact ⟨nofun, nofun⟩
          rw [later, induction]
          constructor
          · rintro ⟨before, element, after, split, accepted, refused⟩
            refine ⟨first :: before, element, after, Or.inr ⟨before, rfl, split⟩, ?_, refused⟩
            intro earlier member
            rcases List.mem_cons.mp member with rfl | member
            · exact ⟨value, head⟩
            · exact accepted earlier member
          · rintro ⟨before, element, after, ⟨rfl, split⟩ | ⟨tail, rfl, split⟩, accepted, refused⟩
            · rw [(List.cons.inj split).1, head] at refused
              contradiction
            · refine ⟨tail, element, after, split, ?_, refused⟩
              intro earlier member
              exact accepted earlier (List.mem_cons_of_mem first member)

theorem RecordError.overflow_iff {error : RecordError} :
    error.errorClass ≠ .badValue ↔ error = .unfit .integerTooLarge := by
  cases error with
  | unfit error => cases error <;> simp [errorClass, TokenError.errorClass]
  | notObject _ | missingTag | unknownTag _ | unknownKind _ | missingValue | notNumber _
  | notText _ _ => simp [errorClass]

theorem TokenListError.overflow_iff {error : TokenListError} :
    error.errorClass ≠ .badValue ↔ error = .record (.unfit .integerTooLarge) := by
  cases error with
  | record error => simp [errorClass, RecordError.overflow_iff]
  | unreadable _ | notArray _ => simp [errorClass]

namespace Token

def Oversized : Json → Prop
  | .obj members =>
      members.lookup ↑"_type" = some (.str tag) ∧
        members.lookup ↑"type" = some (.str TokenKind.number.label) ∧
          ∃ value, members.lookup ↑"value" = some (.int value) ∧
            Binary64.overflowBound ≤ value.natAbs
  | _ => False

section Checks

variable {members : List (CodeText × Json)} {kind : TokenKind} {value : Json} {error : RecordError}

theorem check_tag_iff :
    checkTag members = .ok () ↔ members.lookup ↑"_type" = some (.str tag) := by
  unfold checkTag
  cases members.lookup ↑"_type" with
  | none => simp
  | some found =>
      cases found with
      | str text => by_cases same : text = tag <;> simp [same]
      | null | bool _ | int _ | float _ | arr _ | obj _ => simp

theorem check_tag_refuses (refused : checkTag members = .error error) :
    error.errorClass = .badValue := by
  unfold checkTag at refused
  split at refused
  · cases refused
    rfl
  · cases refused
    rfl
  · split at refused
    · contradiction
    · cases refused
      rfl
  · cases refused
    rfl

theorem record_kind_iff :
    recordKind members = .ok kind ↔ members.lookup ↑"type" = some (.str kind.label) := by
  unfold recordKind
  cases members.lookup ↑"type" with
  | none => simp
  | some found =>
      cases found with
      | str label =>
          simp only [Option.some.injEq, Json.str.injEq, ← TokenKind.of_label_iff]
          cases TokenKind.ofLabel? label <;> simp
      | null | bool _ | int _ | float _ | arr _ | obj _ => simp

theorem record_kind_refuses (refused : recordKind members = .error error) :
    error.errorClass = .badValue := by
  unfold recordKind at refused
  split at refused
  · cases refused
    rfl
  · split at refused
    · contradiction
    · cases refused
      rfl
  · cases refused
    rfl

theorem integer_overflow_iff {value : Int} :
    (integer value).mapError RecordError.unfit = .error (.unfit .integerTooLarge) ↔
      Binary64.overflowBound ≤ value.natAbs := by
  rw [← Binary64.of_int_none_iff, integer]
  cases Binary64.ofInt? value with
  | none => exact ⟨fun _ => rfl, fun _ => rfl⟩
  | some number => exact ⟨nofun, nofun⟩

/-- Of all values of all kinds only an integer can be too large. -/
theorem value_overflow_iff :
    ofKindAndValue kind value = .error (.unfit .integerTooLarge) ↔
      kind = .number ∧ ∃ size, value = .int size ∧ Binary64.overflowBound ≤ size.natAbs := by
  cases kind with
  | number =>
      cases value with
      | int size => simp [ofKindAndValue, ofNumberValue, integer_overflow_iff]
      | null | bool _ | float _ | str _ | arr _ | obj _ => simp [ofKindAndValue, ofNumberValue]
  | name | string => cases value <;> simp [ofKindAndValue]
  | symbol =>
      cases value with
      | str text =>
          simp only [ofKindAndValue, symbol]
          split
          · split <;> simp [Except.mapError]
          · simp [Except.mapError]
      | null | bool _ | int _ | float _ | arr _ | obj _ => simp [ofKindAndValue]

end Checks

theorem record_overflow_iff (record : Json) :
    ofRecord record = .error (.unfit .integerTooLarge) ↔ Oversized record := by
  cases record with
  | obj members =>
      rw [Oversized, ← check_tag_iff, ← record_kind_iff, ofRecord]
      cases tagged : checkTag members with
      | error error =>
          have bad := check_tag_refuses tagged
          constructor
          · intro refused
            cases Except.error.inj refused
            contradiction
          · rintro ⟨_, _⟩
            contradiction
      | ok =>
          cases named : recordKind members with
          | error error =>
              have bad := record_kind_refuses named
              constructor
              · intro refused
                cases Except.error.inj refused
                contradiction
              · rintro ⟨_, _, _⟩
                contradiction
          | ok kind =>
              cases members.lookup ↑"value" with
              | none => simp [bind, Except.bind]
              | some value => simp [bind, Except.bind, value_overflow_iff]
  | null | bool _ | int _ | float _ | str _ | arr _ => simp [ofRecord, Oversized]

/-- A list of records in which one is too large and all before it are tokens. -/
def OversizedFirst : Json → Prop
  | .arr records =>
      ∃ before record after, records = before ++ record :: after ∧
        (∀ earlier ∈ before, ∃ token, ofRecord earlier = .ok token) ∧ Oversized record
  | _ => False

theorem records_overflow_iff (value : Json) :
    ofRecords value = .error (.record (.unfit .integerTooLarge)) ↔ OversizedFirst value := by
  cases value with
  | arr records =>
      simp only [OversizedFirst, ← record_overflow_iff, ← map_refused_iff, ofRecords]
      cases records.mapM ofRecord <;> simp [Except.mapError]
  | null | bool _ | int _ | float _ | str _ | obj _ => simp [ofRecords, OversizedFirst]

/-- Reading a text as tokens, or a value as one token, fails with a bad value or not at all, with
one exception: the first record that is no token may hold an integer that is too large. -/
theorem only_large_integers_overflow (text : String) (value : Json) :
    ((∃ error, readList text = .error error ∧ error.errorClass ≠ .badValue) ↔
      ∃ records, Json.read text = .ok records ∧ OversizedFirst records) ∧
    ((∃ error, ofRecord value = .error error ∧ error.errorClass ≠ .badValue) ↔
      Oversized value) := by
  simp only [TokenListError.overflow_iff, RecordError.overflow_iff, exists_eq_right,
    record_overflow_iff, and_true, readList]
  cases Json.read text with
  | error error => simp
  | ok records => simp [records_overflow_iff]

/-- The integer `10 ^ 309` is no bad value, but no number is near it. -/
theorem large_integer_overflows :
    let text := "[\x7b\"_type\": \"Token\", \"type\": \"NUMBER\", \"value\": 1" ++
      String.ofList (List.replicate 309 '0') ++ "\x7d]"
    ∃ error, readList text = .error error ∧ error.errorClass = .overflow ∧
      error.message = "int too large to convert to float" := by
  intro text
  let record : Json :=
    .obj [("_type", .str "Token"), ("type", .str "NUMBER"), ("value", .int (10 ^ (309 : Nat)))]
  have spelled : Json.write .oneLine 0 (.arr [record]) =
      "[\x7b\"_type\": \"Token\", \"type\": \"NUMBER\", \"value\": 1".toList ++
        List.replicate 309 '0' ++ "\x7d]".toList := by
    decide +kernel
  have written : Json.toText .oneLine (.arr [record]) = text := by
    rw [Json.toText, spelled, String.ofList_append, String.ofList_append, String.ofList_toList,
      String.ofList_toList]
  have readable : (Json.arr [record]).Readable := by
    apply Json.Readable.arr
    intro element member
    rw [List.mem_singleton.mp member]
    apply Json.Readable.obj (by decide) (by decide)
    intro entry inside
    simp only [List.mem_cons, List.not_mem_nil, or_false] at inside
    rcases inside with rfl | rfl | rfl
    · exact .str (Json.unpaired_of_chars _)
    · exact .str (Json.unpaired_of_chars _)
    · exact .int (by decide +kernel)
  have large : Binary64.overflowBound ≤ ((10 : Int) ^ (309 : Nat)).natAbs := by decide +kernel
  have first : OversizedFirst (.arr [record]) :=
    ⟨[], record, [], rfl, List.forall_mem_nil _, rfl, rfl, _, rfl, large⟩
  have refused := (records_overflow_iff (.arr [record])).mpr first
  refine ⟨.record (.unfit .integerTooLarge), ?_, rfl, rfl⟩
  rw [← written, readList, Json.read_to_text readable]
  exact refused

end Token

end ExprLexer
