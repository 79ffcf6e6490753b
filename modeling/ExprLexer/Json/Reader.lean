import ExprLexer.Json.NumberText
import ExprLexer.Json.StringText

/-!
Reading JSON text by recursive descent. Each reader returns a value with the shorter text that
follows it, or the first fault it meets.
-/

namespace ExprLexer.Json

open Text

/-- Spaces between the parts of a JSON text: four characters only. -/
def isSpace (character : Char) : Bool :=
  character == ' ' || character == '\t' || character == '\n' || character == '\r'

def skipSpaces (text : List Char) : List Char := text.dropWhile isSpace

theorem length_skip_spaces_le (text : List Char) : (skipSpaces text).length ≤ text.length :=
  length_drop_while_le _ _

def afterMark? (mark : Char) (text : List Char) : Option (Shorter text) :=
  match skipped : skipSpaces text with
  | [] => none
  | character :: rest =>
      if character = mark then
        some ⟨rest, by
          have within := length_skip_spaces_le text
          rw [skipped, List.length_cons] at within
          exact within⟩
      else none

def wordValues : List (List Char × Json) :=
  [ ("null".toList, .null), ("true".toList, .bool true), ("false".toList, .bool false),
    ("NaN".toList, .float .nan), ("Infinity".toList, .float (.infinity false)),
    ("-Infinity".toList, .float (.infinity true)) ]

def readWord? (text : List Char) : Option (Json × List Char) :=
  wordValues.findSome? fun entry =>
    (afterWord? entry.1 text).map fun rest => (entry.2, rest)

theorem length_lt_of_read_word {text rest : List Char} {value : Json}
    (found : readWord? text = some (value, rest)) : rest.length < text.length := by
  obtain ⟨entry, member, found⟩ := List.exists_of_findSome?_eq_some found
  obtain ⟨rest', after, same⟩ := Option.map_eq_some_iff.1 found
  cases same
  have nonempty : 0 < entry.1.length := by
    simp only [wordValues, List.mem_cons, List.not_mem_nil, or_false] at member
    rcases member with rfl | rfl | rfl | rfl | rfl | rfl <;> decide
  rw [after_word_eq_some_iff.1 after, List.length_append]
  omega

def readScalar (text : List Char) : Except Stop (Json × Shorter text) :=
  match found : readWord? text with
  | some (value, rest) => .ok (value, ⟨rest, length_lt_of_read_word found⟩)
  | none => readNumber text

def readKey : (text : List Char) → Except Stop (CodeText × Shorter text)
  | '"' :: rest =>
      match readBody ('"' :: rest) rest with
      | .error stop => .error stop
      | .ok (key, afterKey) =>
          match afterMark? ':' afterKey.val with
          | none => .error (.malformed .colonExpected (skipSpaces afterKey.val))
          | some afterColon =>
              .ok (key, (afterColon.widen afterKey.length_le).widen (Nat.le_succ _))
  | text => .error (.malformed .keyExpected text)

mutual

def readValue (text : List Char) : Except Stop (Json × Shorter text) :=
  match text with
  | '"' :: rest =>
      match readBody ('"' :: rest) rest with
      | .error stop => .error stop
      | .ok (string, after) => .ok (.str string, after.widen (by simp))
  | '[' :: rest =>
      match afterMark? ']' rest with
      | some after => .ok (.arr [], after.widen (by simp))
      | none =>
          match readElements (skipSpaces rest) with
          | .error stop => .error stop
          | .ok (elements, after) =>
              .ok (.arr elements, after.widen (Nat.le_succ_of_le (length_skip_spaces_le rest)))
  | '\x7b' :: rest =>
      match afterMark? '\x7d' rest with
      | some after => .ok (.obj [], after.widen (by simp))
      | none =>
          match readMembers (skipSpaces rest) with
          | .error stop => .error stop
          | .ok (members, after) =>
              .ok (ofMembers members,
                after.widen (Nat.le_succ_of_le (length_skip_spaces_le rest)))
  | text => readScalar text
termination_by (text.length, 0)
decreasing_by
  all_goals
    simp_wf
    apply Prod.Lex.left
    have := length_skip_spaces_le rest
    omega

/-- The elements of an array from the first on, with the bracket that ends it. A comma promises
another element. -/
def readElements (text : List Char) : Except Stop (List Json × Shorter text) :=
  match readValue text with
  | .error stop => .error stop
  | .ok (element, after) =>
      match afterMark? ']' after.val with
      | some rest => .ok ([element], rest.widen after.length_le)
      | none =>
          match afterMark? ',' after.val with
          | none => .error (.malformed .commaExpected (skipSpaces after.val))
          | some next =>
              match readElements (skipSpaces next.val) with
              | .error stop => .error stop
              | .ok (elements, rest) =>
                  .ok (element :: elements,
                    rest.widen (Nat.le_trans (length_skip_spaces_le next.val)
                      (Nat.le_of_lt (Nat.lt_trans next.property after.property))))
termination_by (text.length, 1)
decreasing_by
  · apply Prod.Lex.right
    decide
  · apply Prod.Lex.left
    exact Nat.lt_of_le_of_lt (length_skip_spaces_le next.val)
      (Nat.lt_trans next.property after.property)

/-- The members of an object from the first on, with the brace that ends it. A comma promises
another member. -/
def readMembers (text : List Char) : Except Stop (List (CodeText × Json) × Shorter text) :=
  match readKey text with
  | .error stop => .error stop
  | .ok (key, afterKey) =>
      match readValue (skipSpaces afterKey.val) with
      | .error stop => .error stop
      | .ok (value, afterValue) =>
          have within : afterValue.val.length ≤ text.length :=
            Nat.le_trans afterValue.length_le
              (Nat.le_trans (length_skip_spaces_le afterKey.val) afterKey.length_le)
          match afterMark? '\x7d' afterValue.val with
          | some rest => .ok ([(key, value)], rest.widen within)
          | none =>
              match afterMark? ',' afterValue.val with
              | none => .error (.malformed .commaExpected (skipSpaces afterValue.val))
              | some next =>
                  match readMembers (skipSpaces next.val) with
                  | .error stop => .error stop
                  | .ok (members, rest) =>
                      .ok ((key, value) :: members,
                        rest.widen (Nat.le_trans (length_skip_spaces_le next.val)
                          (Nat.le_trans next.length_le within)))
termination_by (text.length, 0)
decreasing_by
  · apply Prod.Lex.left
    exact Nat.lt_of_le_of_lt (length_skip_spaces_le afterKey.val) afterKey.property
  · apply Prod.Lex.left
    exact Nat.lt_of_le_of_lt (length_skip_spaces_le next.val)
      (Nat.lt_of_lt_of_le next.property within)

end

def readWhole (text : List Char) : Except Stop Json :=
  match text with
  | '\ufeff' :: rest => .error (.malformed .byteOrderMark ('\ufeff' :: rest))
  | text =>
      match readValue (skipSpaces text) with
      | .error stop => .error stop
      | .ok (value, after) =>
          match skipSpaces after.val with
          | [] => .ok value
          | rest => .error (.malformed .extraData rest)

def read (text : String) : Except ReadError Json :=
  (readWhole text.toList).mapError (Stop.toReadError text.toList)

end ExprLexer.Json
