import ExprLexer.Decimal.Numeral
import ExprLexer.Json.Basic
import ExprLexer.Json.Fault
import ExprLexer.Text.Shorter

/-!
Numbers inside JSON text. A number takes the longest stretch that is one: a fraction or an
exponent belongs to it only when complete. Without either it is an integer.
-/

namespace ExprLexer.Json

open Text

def isAsciiDigit (character : Char) : Bool := '0' ≤ character && character ≤ '9'

/-- The digits before the point: a lone zero, or a run that does not begin with zero. -/
def splitWhole? : (text : List Char) → Option (List Char × Shorter text)
  | [] => none
  | first :: rest =>
      if first = '0' then some (['0'], ⟨rest, Nat.lt_succ_self _⟩)
      else if isAsciiDigit first then
        some (first :: rest.takeWhile isAsciiDigit,
          ⟨rest.dropWhile isAsciiDigit, Nat.lt_succ_of_le (length_drop_while_le _ _)⟩)
      else none

def splitFraction : List Char → List Char × List Char
  | '.' :: rest =>
      match rest.takeWhile isAsciiDigit with
      | [] => ([], '.' :: rest)
      | digits => (digits, rest.dropWhile isAsciiDigit)
  | text => ([], text)

def splitExponentSign : List Char → Bool × List Char
  | '-' :: rest => (true, rest)
  | '+' :: rest => (false, rest)
  | text => (false, text)

def splitExponent : List Char → Option Int × List Char
  | [] => (none, [])
  | mark :: rest =>
      let (negative, afterSign) := splitExponentSign rest
      let digits := afterSign.takeWhile isAsciiDigit
      if (mark = 'e' ∨ mark = 'E') ∧ digits ≠ [] then
        let size : Int := naturalOfDigits digits
        (some (if negative then -size else size), afterSign.dropWhile isAsciiDigit)
      else (none, mark :: rest)

theorem length_split_fraction_le (text : List Char) :
    (splitFraction text).2.length ≤ text.length := by
  unfold splitFraction
  split
  · split
    · simp
    · exact Nat.le_succ_of_le (length_drop_while_le _ _)
  · simp

theorem length_split_exponent_sign_le (text : List Char) :
    (splitExponentSign text).2.length ≤ text.length := by
  unfold splitExponentSign
  split <;> simp

theorem length_split_exponent_le (text : List Char) :
    (splitExponent text).2.length ≤ text.length := by
  unfold splitExponent
  split
  · simp
  · rename_i rest
    simp only
    split
    · exact Nat.le_succ_of_le
        (Nat.le_trans (length_drop_while_le _ _) (length_split_exponent_sign_le rest))
    · simp

def numberValue (negative : Bool) (whole fraction : List Char) (exponent : Option Int) :
    Except Stop Json :=
  if fraction = [] ∧ exponent = none then
    if integerDigitLimit < whole.length then .error (.oversizedInteger whole.length)
    else
      let size : Int := naturalOfDigits whole
      .ok (.int (if negative then -size else size))
  else .ok (.float (Numeral.toBinary64 ⟨negative, whole, fraction, exponent.getD 0⟩))

/-- A number after its sign. `start` is the text from the sign on, where a missing value is
reported. -/
def readUnsigned (start : List Char) (negative : Bool) (text : List Char) :
    Except Stop (Json × Shorter text) :=
  match splitWhole? text with
  | none => .error (.malformed .valueExpected start)
  | some (whole, afterWhole) =>
      let fraction := splitFraction afterWhole.val
      let exponent := splitExponent fraction.2
      match numberValue negative whole fraction.1 exponent.1 with
      | .error stop => .error stop
      | .ok value =>
          .ok (value, ⟨exponent.2,
            Nat.lt_of_le_of_lt (length_split_exponent_le fraction.2)
              (Nat.lt_of_le_of_lt (length_split_fraction_le afterWhole.val)
                afterWhole.property)⟩)

def readNumber : (text : List Char) → Except Stop (Json × Shorter text)
  | '-' :: rest =>
      match readUnsigned ('-' :: rest) true rest with
      | .error stop => .error stop
      | .ok (value, after) => .ok (value, after.widen (by simp))
  | text => readUnsigned text false text

end ExprLexer.Json
