/-!
Text as code points, and the hexadecimal digits by which escapes name them. What is lexed or read
as JSON is made of characters; a text that comes out of escapes may also hold surrogates that stand
alone, which are code points but no characters. The digits are written in lower case to a fixed
width and read in either case.
-/

namespace ExprLexer.Text

inductive CodePoint where
  | char (character : Char)
  | surrogate (index : Fin 0x800)
  deriving DecidableEq, Repr

namespace CodePoint

def toNat : CodePoint → Nat
  | char character => character.toNat
  | surrogate index => 0xd800 + index.val

def ofNat (code : Nat) : CodePoint :=
  if code.isValidChar then char (Char.ofNat code) else surrogate (Fin.ofNat 0x800 (code - 0xd800))

theorem of_nat_of_char (character : Char) : ofNat character.toNat = char character := by
  have valid : character.toNat.isValidChar := character.valid
  rw [ofNat, if_pos valid, Char.ofNat_toNat]

theorem of_nat_of_surrogate (index : Fin 0x800) : ofNat (0xd800 + index.val) = surrogate index := by
  have invalid : ¬(0xd800 + index.val).isValidChar := by
    unfold Nat.isValidChar
    omega
  rw [ofNat, if_neg invalid, Nat.add_sub_cancel_left, Fin.ofNat_val_eq_self]

theorem of_nat_to_nat (point : CodePoint) : ofNat point.toNat = point := by
  cases point with
  | char character => exact of_nat_of_char character
  | surrogate index => exact of_nat_of_surrogate index

theorem to_nat_bound (point : CodePoint) : point.toNat < 0x110000 := by
  cases point with
  | char character =>
      have valid : character.toNat < 0xd800 ∨
          0xdfff < character.toNat ∧ character.toNat < 0x110000 := character.valid
      rw [toNat]
      omega
  | surrogate index =>
      rw [toNat]
      omega

end CodePoint

abbrev CodeText := List CodePoint

def CodeText.ofChars (text : List Char) : CodeText := text.map .char

instance : Coe String CodeText := ⟨fun text => CodeText.ofChars text.toList⟩

/-- The last `width` hexadecimal digits of a number, leading zeros kept. -/
def hexDigits : Nat → Nat → List Char
  | 0, _ => []
  | width + 1, value => hexDigits width (value / 16) ++ [Nat.digitChar (value % 16)]

def hexValue? (character : Char) : Option Nat :=
  if '0' ≤ character ∧ character ≤ '9' then some (character.toNat - '0'.toNat)
  else if 'a' ≤ character ∧ character ≤ 'f' then some (character.toNat - 'a'.toNat + 10)
  else if 'A' ≤ character ∧ character ≤ 'F' then some (character.toNat - 'A'.toNat + 10)
  else none

theorem hex_digits_length (width value : Nat) : (hexDigits width value).length = width := by
  induction width generalizing value with
  | zero => rfl
  | succ width induction => simp [hexDigits, induction]

theorem hex_value_digit_char :
    ∀ value : Fin 16, hexValue? (Nat.digitChar value) = some value.val := by
  decide

end ExprLexer.Text
