import ExprLexer.Proofs.CharClasses
import ExprLexer.Proofs.JsonValues
import ExprLexer.Token.Record

/-!
Tokens are read back from the text that was written of them, with what they say and without the
places where they stood.
-/

namespace ExprLexer

open Text (CodeText)

namespace Payload

/-- Names and strings hold any text, surrogates among them unless two make a pair; numbers are all
but the one that is no number, and a symbol is one of four characters. -/
def WellFormed : Payload → Prop
  | name text => Json.Unpaired text
  | number value => value ≠ .nan
  | string text => Json.Unpaired text
  | symbol text => text ∈ symbolTexts

instance : DecidablePred WellFormed
  | name text => inferInstanceAs (Decidable (Json.Unpaired text))
  | number value => inferInstanceAs (Decidable (value ≠ .nan))
  | string text => inferInstanceAs (Decidable (Json.Unpaired text))
  | symbol text => inferInstanceAs (Decidable (text ∈ symbolTexts))

end Payload

namespace Token

theorem payload_readable {payload : Payload} (wellFormed : payload.WellFormed) :
    payload.toJson.Readable := by
  cases payload with
  | name text => exact .str wellFormed
  | number value => exact .float value
  | string text => exact .str wellFormed
  | symbol text =>
      obtain ⟨character, rfl⟩ := symbol_text_alone wellFormed
      exact .str (Json.unpaired_of_chars [character])

theorem record_readable {token : Token} (wellFormed : token.payload.WellFormed) :
    (toRecord token).Readable := by
  apply Json.Readable.obj
  · exact (by decide : (["_type", "type", "value"] : List CodeText).Nodup)
  · intro member inside
    simp only [List.mem_cons, List.not_mem_nil, or_false] at inside
    obtain rfl | rfl | rfl := inside <;> exact Json.unpaired_of_chars _
  · intro member inside
    simp only [List.mem_cons, List.not_mem_nil, or_false] at inside
    obtain rfl | rfl | rfl := inside
    · exact .str (Json.unpaired_of_chars _)
    · exact .str (Json.unpaired_of_chars _)
    · exact payload_readable wellFormed

theorem symbol_of_listed {text : CodeText} (listed : text ∈ symbolTexts) :
    symbol text = .ok (ofPayload (.symbol text)) := by
  obtain ⟨character, rfl⟩ := symbol_text_alone listed
  rw [symbol, if_pos (symbol_text_iff.mp listed)]

theorem of_kind_and_value_of_payload {payload : Payload} (wellFormed : payload.WellFormed) :
    ofKindAndValue payload.kind payload.toJson = .ok (ofPayload payload) := by
  cases payload with
  | name text => rfl
  | number value => rfl
  | string text => rfl
  | symbol text =>
      rw [Payload.kind, Payload.toJson, ofKindAndValue, symbol_of_listed wellFormed]
      rfl

theorem of_record_to_record {token : Token} (wellFormed : token.payload.WellFormed) :
    ofRecord (toRecord token) = .ok (ofPayload token.payload) := by
  let members : List (CodeText × Json) :=
    [("_type", .str tag), ("type", .str token.payload.kind.label), ("value", token.payload.toJson)]
  have tagged : checkTag members = .ok () := rfl
  have named : members.lookup ↑"type" = some (.str token.payload.kind.label) := rfl
  have kind : recordKind members = .ok token.payload.kind := by
    rw [recordKind, named]
    simp only [TokenKind.of_label_label]
  have value : members.lookup ↑"value" = some token.payload.toJson := rfl
  change ofRecord (.obj members) = _
  simp only [ofRecord, tagged, kind, value, of_kind_and_value_of_payload wellFormed, bind,
    Except.bind]

theorem of_records_to_records {tokens : List Token}
    (wellFormed : ∀ token ∈ tokens, token.payload.WellFormed) :
    (tokens.map toRecord).mapM ofRecord =
      .ok (tokens.map fun token => ofPayload token.payload) := by
  induction tokens with
  | nil => rfl
  | cons token tokens induction =>
      have head := of_record_to_record (wellFormed token List.mem_cons_self)
      have tail := induction fun other member =>
        wellFormed other (List.mem_cons_of_mem token member)
      rw [List.map_cons, List.mapM_cons, head, tail]
      rfl

theorem records_readable {tokens : List Token}
    (wellFormed : ∀ token ∈ tokens, token.payload.WellFormed) :
    (Json.arr (tokens.map toRecord)).Readable := by
  apply Json.Readable.arr
  intro record inside
  obtain ⟨token, member, rfl⟩ := List.mem_map.mp inside
  exact record_readable (wellFormed token member)

/-- Reading the text of a list of tokens gives these tokens again, of unknown location. -/
theorem read_list_write_list {tokens : List Token} (indent : Option Int)
    (wellFormed : ∀ token ∈ tokens, token.payload.WellFormed) :
    readList (writeList (.ofIndent indent) tokens) =
      .ok (tokens.map fun token => ofPayload token.payload) := by
  have records := of_records_to_records wellFormed
  rw [readList, writeList, Json.read_to_text (records_readable wellFormed)]
  simp only [ofRecords, records]
  rfl

/-- A negative zero, an infinity, the least and the largest number, and text that needs every
kind of escape. -/
theorem hard_tokens_come_back :
    readList (writeList (.ofIndent (some 2))
        [ ⟨.name "x", ⟨1, 1, 0, 1, some "a.txt"⟩⟩, ⟨.symbol "=", .unknown⟩,
          ⟨.number (.finite true ⟨0, 0, by decide, by decide, by decide⟩), .unknown⟩,
          ⟨.number (.infinity true), .unknown⟩,
          ⟨.number (.finite false ⟨1, 0, by decide, by decide, by decide⟩), .unknown⟩,
          ⟨.number (.finite false ⟨9007199254740991, 2045, by decide, by decide, by decide⟩),
            .unknown⟩,
          ⟨.string "\"\\\n\x7f𝄞", ⟨2, 3, 9, 16, none⟩⟩ ]) =
      .ok
        [ .ofPayload (.name "x"), .ofPayload (.symbol "="),
          .ofPayload (.number (.finite true ⟨0, 0, by decide, by decide, by decide⟩)),
          .ofPayload (.number (.infinity true)),
          .ofPayload (.number (.finite false ⟨1, 0, by decide, by decide, by decide⟩)),
          .ofPayload
            (.number (.finite false ⟨9007199254740991, 2045, by decide, by decide, by decide⟩)),
          .ofPayload (.string "\"\\\n\x7f𝄞") ] :=
  read_list_write_list (some 2) (by decide)

end Token

end ExprLexer
