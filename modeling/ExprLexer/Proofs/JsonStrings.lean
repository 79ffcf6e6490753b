import ExprLexer.Json.StringText
import Mathlib.Data.List.Chain
import Mathlib.Tactic.Common

/-!
Written strings are read back. A character stands in a string as itself, as a short escape or as
the escapes of its units, and in each form it is read whatever follows, as long as something
does. The closing quote always follows. A surrogate that stands alone is read back as well, unless
it is a high one and a low one comes next: these two are read as one character.
-/

namespace ExprLexer.Json

open Text

def Gives {Value : Type} {text : List Char} (result : Except Stop (Value × Shorter text))
    (value : Value) (rest : List Char) : Prop :=
  ∃ after : Shorter text, result = .ok (value, after) ∧ after.val = rest

def Finds {Value : Type} {text : List Char} (result : Option (Value × Shorter text))
    (value : Value) (rest : List Char) : Prop :=
  ∃ after : Shorter text, result = some (value, after) ∧ after.val = rest

/-- The forms in which a character stands in a written string. -/
inductive Written (character : Char) : List Char → Prop where
  | plain (printable : ¬character < ' ') (noQuote : character ≠ '"')
      (noBackslash : character ≠ '\\') : Written character [character]
  | short {letter : Char} (escape : shortEscape? letter = some character) :
      Written character ['\\', letter]
  | units : Written character ((unitsOf character.toNat).flatMap unitEscape)

theorem write_char_written (character : Char) : Written character (writeChar character) := by
  unfold writeChar
  split
  · rename_i quote
    exact .short (by rw [quote]; rfl)
  split
  · rename_i backslash
    exact .short (by rw [backslash]; rfl)
  split
  · rename_i backspace
    exact .short (by rw [backspace]; rfl)
  split
  · rename_i formFeed
    exact .short (by rw [formFeed]; rfl)
  split
  · rename_i lineFeed
    exact .short (by rw [lineFeed]; rfl)
  split
  · rename_i carriageReturn
    exact .short (by rw [carriageReturn]; rfl)
  split
  · rename_i tab
    exact .short (by rw [tab]; rfl)
  split
  · rename_i noQuote noBackslash _ _ _ _ _ printable
    exact .plain (Char.not_lt.mpr printable.1) noQuote noBackslash
  · exact .units

theorem written_first {character : Char} {form : List Char} (written : Written character form) :
    ∃ first more, form = first :: more ∧ first ≠ '"' := by
  cases written with
  | plain _ noQuote => exact ⟨_, _, rfl, noQuote⟩
  | short => exact ⟨_, _, rfl, by decide⟩
  | units =>
      rw [unitsOf]
      split
      · exact ⟨_, _, rfl, by decide⟩
      · exact ⟨_, _, rfl, by decide⟩

theorem read_unit_finds {unit : Nat} (small : unit < 0x10000) {rest : List Char}
    (present : rest ≠ []) : Finds (readUnit? (hexDigits 4 unit ++ rest)) unit rest := by
  obtain ⟨next, more, rfl⟩ := List.exists_cons_of_ne_nil present
  have digit (value : Nat) : hexValue? (Nat.digitChar (value % 16)) = some (value % 16) :=
    hex_value_digit_char ⟨value % 16, Nat.mod_lt _ (by decide)⟩
  have joined : ((unit / 16 / 16 / 16 % 16 * 16 + unit / 16 / 16 % 16) * 16 + unit / 16 % 16) * 16 +
      unit % 16 = unit := by
    omega
  simp only [Finds, hexDigits, List.nil_append, List.cons_append, readUnit?, digit, joined]
  exact ⟨_, rfl, rfl⟩

theorem character_no_surrogate (character : Char) :
    isHighSurrogate character.toNat = false ∧ isLowSurrogate character.toNat = false := by
  have valid : character.toNat < 0xd800 ∨ 0xdfff < character.toNat ∧ character.toNat < 0x110000 :=
    character.valid
  simp only [isHighSurrogate, isLowSurrogate, Bool.and_eq_false_iff, decide_eq_false_iff_not]
  omega

/-- A unit is read for itself, a high surrogate only if no escaped low one follows it. -/
theorem read_lone_unit {unit : Nat} (small : unit < 0x10000) {rest : List Char}
    (alone : isHighSurrogate unit = true → readLowSurrogate? rest = none) (present : rest ≠ []) :
    Finds (readUnicodeEscape? (hexDigits 4 unit ++ rest)) (.ofNat unit) rest := by
  obtain ⟨after, read, leaves⟩ := read_unit_finds small present
  refine ⟨after, ?_, leaves⟩
  cases high : isHighSurrogate unit with
  | false => simp only [readUnicodeEscape?, read, high, Bool.false_eq_true, if_false]
  | true =>
      have unfollowed : readLowSurrogate? after.val = none := by
        rw [leaves]
        exact alone high
      simp only [readUnicodeEscape?, read, high, if_true, unfollowed]

example : (readUnicodeEscape? "d800!".toList).map Prod.fst = some (.surrogate 0) := by decide

theorem read_low_surrogate {low : Nat} (isLow : isLowSurrogate low = true) {rest : List Char}
    (present : rest ≠ []) :
    Finds (readLowSurrogate? (unitEscape low ++ rest)) low rest := by
  have small : low < 0x10000 := by
    simp only [isLowSurrogate, Bool.and_eq_true, decide_eq_true_eq] at isLow
    omega
  obtain ⟨after, read, leaves⟩ := read_unit_finds small present
  refine ⟨after.widen (by simp only [unitEscape, List.cons_append, List.length_cons]; omega), ?_,
    leaves⟩
  simp only [unitEscape, List.cons_append, readLowSurrogate?, read, isLow, if_true]

/-- A high surrogate takes the escape of a low one along. -/
theorem read_surrogate_pair {high low : Nat} (isHigh : isHighSurrogate high = true)
    (isLow : isLowSurrogate low = true) {rest : List Char} (present : rest ≠ []) :
    Finds (readUnicodeEscape? (hexDigits 4 high ++ (unitEscape low ++ rest)))
      (.ofNat (joinSurrogates high low)) rest := by
  have small : high < 0x10000 := by
    simp only [isHighSurrogate, Bool.and_eq_true, decide_eq_true_eq] at isHigh
    omega
  obtain ⟨afterHigh, readHigh, leavesHigh⟩ :=
    read_unit_finds small (show unitEscape low ++ rest ≠ [] from List.cons_ne_nil _ _)
  have followed := read_low_surrogate isLow present
  rw [← leavesHigh] at followed
  obtain ⟨after, readLow, leaves⟩ := followed
  refine ⟨after.widen afterHigh.length_le, ?_, leaves⟩
  simp only [readUnicodeEscape?, readHigh, isHigh, if_true, readLow]

theorem read_units (character : Char) {rest : List Char} (present : rest ≠ []) :
    ∃ escape, (unitsOf character.toNat).flatMap unitEscape = '\\' :: 'u' :: escape ∧
      Finds (readUnicodeEscape? (escape ++ rest)) (.char character) rest := by
  have bound : character.toNat < 0x110000 := CodePoint.to_nat_bound (.char character)
  rw [unitsOf]
  split
  · rename_i small
    have noHigh := (character_no_surrogate character).1
    have read := read_lone_unit small (fun high => absurd high (by rw [noHigh]; decide)) present
    rw [CodePoint.of_nat_of_char] at read
    refine ⟨hexDigits 4 character.toNat, ?_, read⟩
    rw [List.flatMap_singleton, unitEscape]
  · have isHigh : isHighSurrogate (0xd800 + (character.toNat - 0x10000) / 0x400) = true := by
      simp only [isHighSurrogate, Bool.and_eq_true, decide_eq_true_eq]
      omega
    have isLow : isLowSurrogate (0xdc00 + (character.toNat - 0x10000) % 0x400) = true := by
      simp only [isLowSurrogate, Bool.and_eq_true, decide_eq_true_eq]
      omega
    have joined : joinSurrogates (0xd800 + (character.toNat - 0x10000) / 0x400)
        (0xdc00 + (character.toNat - 0x10000) % 0x400) = character.toNat := by
      unfold joinSurrogates
      omega
    have read := read_surrogate_pair isHigh isLow present
    rw [joined, CodePoint.of_nat_of_char, ← List.append_assoc] at read
    refine ⟨_, ?_, read⟩
    simp only [List.flatMap_cons, List.flatMap_nil, List.append_nil, unitEscape,
      List.cons_append]

theorem read_char_written (opening : List Char) {character : Char} {form rest : List Char}
    (written : Written character form) (present : rest ≠ []) :
    Gives (readPoint opening (form ++ rest)) (.char character) rest := by
  cases written with
  | plain printable _ noBackslash =>
      refine ⟨⟨rest, Nat.lt_succ_self _⟩, ?_, rfl⟩
      simp [readPoint, noBackslash, printable]
  | short escape =>
      rename_i letter
      have shorter : rest.length < (['\\', letter] ++ rest).length :=
        Nat.lt_succ_of_lt (Nat.lt_succ_self _)
      -- Each letter of the table is read by evaluation; there is no other.
      unfold shortEscape? at escape
      split at escape <;> cases escape <;> exact ⟨⟨rest, shorter⟩, rfl, rfl⟩
  | units =>
      obtain ⟨escape, spelled, after, read, leaves⟩ := read_units character present
      rw [spelled]
      refine ⟨after.widen (by simp only [List.cons_append, List.length_cons]; omega), ?_, leaves⟩
      simp only [List.cons_append, readPoint, read]

theorem surrogate_small (index : Fin 0x800) : (CodePoint.surrogate index).toNat < 0x10000 := by
  rw [CodePoint.toNat]
  omega

theorem read_surrogate_written (opening : List Char) {index : Fin 0x800} {rest : List Char}
    (alone : isHighSurrogate (CodePoint.surrogate index).toNat = true →
      readLowSurrogate? rest = none) (present : rest ≠ []) :
    Gives (readPoint opening (writePoint (.surrogate index) ++ rest)) (.surrogate index) rest := by
  have found := read_lone_unit (surrogate_small index) alone present
  rw [CodePoint.of_nat_to_nat] at found
  obtain ⟨after, read, leaves⟩ := found
  refine ⟨after.widen (by
    simp only [writePoint, unitEscape, List.cons_append, List.length_cons]; omega), ?_, leaves⟩
  simp only [writePoint, unitEscape, List.cons_append, readPoint, read]

/-- No high surrogate stands right before a low one. -/
def Unpaired (text : CodeText) : Prop :=
  text.IsChain fun first second =>
    isHighSurrogate first.toNat = true → isLowSurrogate second.toNat = false

instance (text : CodeText) : Decidable (Unpaired text) :=
  List.instDecidableIsChainOfDecidableRel text

theorem unpaired_of_chars (text : List Char) : Unpaired (.ofChars text) := by
  induction text with
  | nil => exact .nil
  | cons character text induction =>
      refine List.isChain_cons.mpr ⟨fun next _ high => ?_, induction⟩
      rw [CodePoint.toNat, (character_no_surrogate character).1] at high
      contradiction

theorem other_unit_no_low {unit : Nat} (small : unit < 0x10000)
    (other : isLowSurrogate unit = false) {rest : List Char} (present : rest ≠ []) :
    readLowSurrogate? (unitEscape unit ++ rest) = none := by
  obtain ⟨after, read, _⟩ := read_unit_finds small present
  simp only [unitEscape, List.cons_append, readLowSurrogate?, read, other, Bool.false_eq_true,
    if_false]

theorem units_begin (character : Char) :
    ∃ unit more, (unitsOf character.toNat).flatMap unitEscape = unitEscape unit ++ more ∧
      unit < 0x10000 ∧ isLowSurrogate unit = false := by
  rw [unitsOf]
  split
  · rename_i small
    refine ⟨character.toNat, [], ?_, small, (character_no_surrogate character).2⟩
    rw [List.flatMap_singleton, List.append_nil]
  · have bound : character.toNat < 0x110000 := CodePoint.to_nat_bound (.char character)
    refine ⟨0xd800 + (character.toNat - 0x10000) / 0x400, _, List.flatMap_cons, by omega, ?_⟩
    simp only [isLowSurrogate, Bool.and_eq_false_iff, decide_eq_false_iff_not]
    omega

/-- No character is written so that its text could be taken for the escape of a low surrogate. -/
theorem written_char_no_low {character : Char} {form rest : List Char}
    (written : Written character form) (present : rest ≠ []) :
    readLowSurrogate? (form ++ rest) = none := by
  cases written with
  | plain _ _ noBackslash =>
      apply readLowSurrogate?.eq_2
      intro later same
      exact noBackslash (List.cons.inj same).1
  | @short letter escape =>
      apply readLowSurrogate?.eq_2
      intro later same
      rw [(List.cons.inj (List.cons.inj same).2).1] at escape
      contradiction
  | units =>
      obtain ⟨unit, more, spelled, small, other⟩ := units_begin character
      rw [spelled, List.append_assoc]
      exact other_unit_no_low small other (List.append_ne_nil_of_right_ne_nil _ present)

theorem written_text_no_low {text : CodeText}
    (other : ∀ next ∈ text.head?, isLowSurrogate next.toNat = false) (rest : List Char) :
    readLowSurrogate? (text.flatMap writePoint ++ '"' :: rest) = none := by
  cases text with
  | nil => rfl
  | cons point text =>
      have present : text.flatMap writePoint ++ '"' :: rest ≠ [] :=
        List.append_ne_nil_of_right_ne_nil _ (List.cons_ne_nil _ _)
      rw [List.flatMap_cons, List.append_assoc]
      cases point with
      | char character => exact written_char_no_low (write_char_written character) present
      | surrogate index => exact other_unit_no_low (surrogate_small index) (other _ rfl) present

theorem written_point_first (point : CodePoint) :
    ∃ first more, writePoint point = first :: more ∧ first ≠ '"' := by
  cases point with
  | char character => exact written_first (write_char_written character)
  | surrogate index => exact ⟨_, _, rfl, by decide⟩

theorem read_body_cons {opening text middle rest : List Char} {point : CodePoint}
    {points : CodeText} (unclosed : ∀ more, text ≠ '"' :: more)
    (one : Gives (readPoint opening text) point middle)
    (others : Gives (readBody opening middle) points rest) :
    Gives (readBody opening text) (point :: points) rest := by
  obtain ⟨after, read, rfl⟩ := one
  obtain ⟨last, readOthers, leaves⟩ := others
  refine ⟨last.widen after.length_le, ?_, leaves⟩
  rw [readBody.eq_def]
  split
  · exact absurd rfl (unclosed _)
  · simp only [read, readOthers]

/-- The body of a written string is read up to its closing quote. -/
theorem read_body_written (opening : List Char) {text : CodeText} (unpaired : Unpaired text)
    (rest : List Char) :
    Gives (readBody opening (text.flatMap writePoint ++ '"' :: rest)) text rest := by
  induction text with
  | nil =>
      change Gives (readBody opening ('"' :: rest)) [] rest
      refine ⟨⟨rest, Nat.lt_succ_self _⟩, ?_, rfl⟩
      rw [readBody]
  | cons point text induction =>
      obtain ⟨unfollowed, later⟩ := List.isChain_cons.mp unpaired
      have present : text.flatMap writePoint ++ '"' :: rest ≠ [] :=
        List.append_ne_nil_of_right_ne_nil _ (List.cons_ne_nil _ _)
      rw [List.flatMap_cons, List.append_assoc]
      apply read_body_cons
      · obtain ⟨first, more, spelled, noQuote⟩ := written_point_first point
        rw [spelled]
        intro others same
        exact noQuote (List.cons.inj same).1
      · cases point with
        | char character => exact read_char_written opening (write_char_written character) present
        | surrogate index =>
            apply read_surrogate_written opening _ present
            intro high
            exact written_text_no_low (fun next member => unfollowed next member high) rest
      · exact induction later

end ExprLexer.Json
