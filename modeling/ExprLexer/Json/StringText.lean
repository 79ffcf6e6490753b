import ExprLexer.Json.Fault
import ExprLexer.Text.CodePoint
import ExprLexer.Text.Shorter

/-!
Strings inside JSON text, written and read one code point at a time. Writing keeps to printable
ASCII; a character beyond the basic plane becomes two escapes, a high and a low surrogate.
Reading takes any character from the space upward, the short escapes and `\u` escapes. The escape
of a surrogate without its partner is read as that surrogate.
-/

namespace ExprLexer.Json

open Text

def unitEscape (unit : Nat) : List Char := '\\' :: 'u' :: hexDigits 4 unit

def unitsOf (code : Nat) : List Nat :=
  if code < 0x10000 then [code]
  else [0xd800 + (code - 0x10000) / 0x400, 0xdc00 + (code - 0x10000) % 0x400]

def writeChar (character : Char) : List Char :=
  if character = '"' then ['\\', '"']
  else if character = '\\' then ['\\', '\\']
  else if character = '\x08' then ['\\', 'b']
  else if character = '\x0c' then ['\\', 'f']
  else if character = '\n' then ['\\', 'n']
  else if character = '\r' then ['\\', 'r']
  else if character = '\t' then ['\\', 't']
  else if ' ' ≤ character ∧ character ≤ '~' then [character]
  else (unitsOf character.toNat).flatMap unitEscape

/-- A surrogate that stands alone is written as its own unit. -/
def writePoint : CodePoint → List Char
  | .char character => writeChar character
  | .surrogate index => unitEscape (CodePoint.surrogate index).toNat

def writeString (text : CodeText) : List Char :=
  '"' :: (text.flatMap writePoint ++ ['"'])

def shortEscape? : Char → Option Char
  | '"' => some '"'
  | '\\' => some '\\'
  | '/' => some '/'
  | 'b' => some '\x08'
  | 'f' => some '\x0c'
  | 'n' => some '\n'
  | 'r' => some '\r'
  | 't' => some '\t'
  | _ => none

/-- The unit after `\u`: four hexadecimal digits, and the text must go on after them. -/
def readUnit? : (text : List Char) → Option (Nat × Shorter text)
  | first :: second :: third :: fourth :: next :: rest =>
      match hexValue? first, hexValue? second, hexValue? third, hexValue? fourth with
      | some first, some second, some third, some fourth =>
          some (((first * 16 + second) * 16 + third) * 16 + fourth,
            ⟨next :: rest, by simp only [List.length_cons]; omega⟩)
      | _, _, _, _ => none
  | _ => none

def isHighSurrogate (unit : Nat) : Bool := 0xd800 ≤ unit && unit < 0xdc00

def isLowSurrogate (unit : Nat) : Bool := 0xdc00 ≤ unit && unit < 0xe000

def joinSurrogates (high low : Nat) : Nat := 0x10000 + (high - 0xd800) * 0x400 + (low - 0xdc00)

def readLowSurrogate? : (text : List Char) → Option (Nat × Shorter text)
  | '\\' :: 'u' :: rest =>
      match readUnit? rest with
      | some (unit, after) =>
          if isLowSurrogate unit then
            some (unit, after.widen (by simp only [List.length_cons]; omega))
          else none
      | none => none
  | _ => none

/-- What the text after `\u` gives. A high surrogate takes an escaped low one that follows it
along. -/
def readUnicodeEscape? (text : List Char) : Option (CodePoint × Shorter text) :=
  match readUnit? text with
  | none => none
  | some (unit, after) =>
      if isHighSurrogate unit then
        match readLowSurrogate? after.val with
        | some (low, afterLow) =>
            some (.ofNat (joinSurrogates unit low), afterLow.widen after.length_le)
        | none => some (.ofNat unit, after)
      else some (.ofNat unit, after)

/-- One code point of a string's body. `opening` is the text from the opening quote on, where a
string that never ends is reported. -/
def readPoint (opening : List Char) :
    (text : List Char) → Except Stop (CodePoint × Shorter text)
  | [] => .error (.malformed .unterminatedString opening)
  | ['\\'] => .error (.malformed .unterminatedString opening)
  | '\\' :: 'u' :: rest =>
      match readUnicodeEscape? rest with
      | some (point, after) =>
          .ok (point, after.widen (by simp only [List.length_cons]; omega))
      | none => .error (.malformed .invalidUnicodeEscape ('u' :: rest))
  | '\\' :: letter :: rest =>
      match shortEscape? letter with
      | some character => .ok (.char character, ⟨rest, by simp only [List.length_cons]; omega⟩)
      | none => .error (.malformed .invalidEscape ('\\' :: letter :: rest))
  | character :: rest =>
      if character < ' ' then .error (.malformed .controlCharacter (character :: rest))
      else .ok (.char character, ⟨rest, by simp⟩)

def readBody (opening : List Char) (text : List Char) : Except Stop (CodeText × Shorter text) :=
  match text with
  | '"' :: rest => .ok ([], ⟨rest, by simp⟩)
  | text =>
      match readPoint opening text with
      | .error stop => .error stop
      | .ok (point, after) =>
          match readBody opening after.val with
          | .error stop => .error stop
          | .ok (points, rest) => .ok (point :: points, rest.widen after.length_le)
termination_by text.length
decreasing_by exact after.property

end ExprLexer.Json
