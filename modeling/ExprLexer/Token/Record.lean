import ExprLexer.Json.Printer
import ExprLexer.Json.Reader
import ExprLexer.Token.Basic

/-!
Tokens as JSON. A token is written as an object with a tag, the name of its kind and its value;
where it stood is not written. Reading demands what writing produces but is indifferent to the
order of the members and to further ones.
-/

namespace ExprLexer

open Text (CodeText)

/-- Why a JSON value is no token. The first of these that applies is told. -/
inductive RecordError where
  | notObject (value : Json)
  | missingTag
  | unknownTag (tag : Json)
  | unknownKind (kind : Json)
  | missingValue
  | notNumber (value : Json)
  | notText (kind : TokenKind) (value : Json)
  | unfit (error : TokenError)

def RecordError.message : RecordError → String
  | notObject value => "Expected a serialized token dict, got " ++ value.kindName
  | missingTag => "Missing '_type' field in serialized token"
  | unknownTag tag => "Unknown type: " ++ tag.display
  | unknownKind kind => "Unknown token type: " ++ kind.display
  | missingValue => "Missing 'value' field in serialized token"
  | notNumber value => "NUMBER value must be int or float, got " ++ value.kindName
  | notText kind value => kind.label ++ " value must be str, got " ++ value.kindName
  | unfit error => error.message

def RecordError.errorClass : RecordError → ErrorClass
  | unfit error => error.errorClass
  | _ => .badValue

inductive TokenListError where
  | unreadable (error : Json.ReadError)
  | notArray (value : Json)
  | record (error : RecordError)

def TokenListError.message : TokenListError → String
  | unreadable error => error.message
  | notArray value => "Expected a JSON array, got " ++ value.kindName
  | record error => error.message

/-- Text that cannot be read is a bad value, whatever is wrong with it. -/
def TokenListError.errorClass : TokenListError → ErrorClass
  | unreadable _ => .badValue
  | notArray _ => .badValue
  | record error => error.errorClass

namespace Payload

def toJson : Payload → Json
  | name text => .str text
  | number value => .float value
  | string text => .str text
  | symbol text => .str text

end Payload

namespace Token

def tag : CodeText := "Token"

def toRecord (token : Token) : Json :=
  .obj
    [ ("_type", .str tag), ("type", .str token.payload.kind.label),
      ("value", token.payload.toJson) ]

/-- The tag is there, is not null, and is the tag of tokens. -/
def checkTag (members : List (CodeText × Json)) : Except RecordError Unit :=
  match members.lookup ↑"_type" with
  | none | some .null => .error .missingTag
  | some (.str text) => if text = tag then .ok () else .error (.unknownTag (.str text))
  | some other => .error (.unknownTag other)

/-- The kind that a record names. An absent kind counts as null. -/
def recordKind (members : List (CodeText × Json)) : Except RecordError TokenKind :=
  match members.lookup ↑"type" with
  | none => .error (.unknownKind .null)
  | some (.str label) =>
      match TokenKind.ofLabel? label with
      | some kind => .ok kind
      | none => .error (.unknownKind (.str label))
  | some other => .error (.unknownKind other)

def ofNumberValue : Json → Except RecordError Token
  | .int value => (integer value).mapError .unfit
  | .float value => .ok (number value)
  | other => .error (.notNumber other)

def ofKindAndValue (kind : TokenKind) (value : Json) : Except RecordError Token :=
  match kind, value with
  | .number, value => ofNumberValue value
  | .name, .str text => .ok (name text)
  | .string, .str text => .ok (string text)
  | .symbol, .str text => (symbol text).mapError .unfit
  | kind, value => .error (.notText kind value)

def ofRecord : Json → Except RecordError Token
  | .obj members => do
      checkTag members
      let kind ← recordKind members
      match members.lookup ↑"value" with
      | none => .error .missingValue
      | some value => ofKindAndValue kind value
  | other => .error (.notObject other)

def writeList (spacing : Json.Spacing) (tokens : List Token) : String :=
  Json.toText spacing (.arr (tokens.map toRecord))

def ofRecords (value : Json) : Except TokenListError (List Token) :=
  match value with
  | .arr records => (records.mapM ofRecord).mapError .record
  | other => .error (.notArray other)

def readList (text : String) : Except TokenListError (List Token) :=
  match Json.read text with
  | .error error => .error (.unreadable error)
  | .ok value => ofRecords value

end Token

end ExprLexer
