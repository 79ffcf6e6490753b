import ExprLexer.Proofs.CharClasses
import ExprLexer.Proofs.JsonStrings
import ExprLexer.Text.Quoted

/-!
Quoted text. Each character of a quoted text prints, whatever the text holds, and a reader of the
escapes gets the text back, so two texts are never shown alike.
-/

namespace ExprLexer.Text

open Json (Finds)

attribute [local instance (high)] instPowNat

def Prints (text : List Char) : Prop := ∀ character ∈ text, isPrintable character = true

-- over the members: a search through all characters would decide the same
instance (text : List Char) : Decidable (Prints text) :=
  List.decidableBAll (fun character => isPrintable character = true) text

/-- The controls, among them the line ends and the escape, the separators of lines and of
paragraphs, and the characters that turn the direction of writing. -/
def steeringRanges : CodeRanges :=
  [
    (0x0000, 0x001f), (0x007f, 0x009f), (0x061c, 0x061c), (0x200e, 0x200f), (0x2028, 0x202e),
    (0x2066, 0x2069) ]

theorem printable_steers_nothing {character : Char} (prints : isPrintable character = true) :
    steeringRanges.contains character.toNat = false :=
  CodeRanges.contains_apart (by decide +kernel) prints

theorem prints_append {first second : List Char} :
    Prints (first ++ second) ↔ Prints first ∧ Prints second :=
  List.forall_mem_append

theorem prints_cons {character : Char} {text : List Char} :
    Prints (character :: text) ↔ isPrintable character = true ∧ Prints text :=
  List.forall_mem_cons

def naturalOfHex (digits : List Char) : Nat :=
  digits.foldl (fun value digit => 16 * value + (hexValue? digit).getD 0) 0

def letterEscape? : Char → Option Char
  | 'n' => some '\n'
  | 'r' => some '\r'
  | 't' => some '\t'
  | _ => none

def escapeWidth? : Char → Option Nat
  | 'x' => some 2
  | 'u' => some 4
  | 'U' => some 8
  | _ => none

theorem length_behind_first (first : Char) (rest : List Char) :
    rest.length < (first :: rest).length := Nat.lt_succ_self rest.length

def readEscape? (mark : Char) : (text : List Char) → Option (CodePoint × Shorter text)
  | [] => none
  | letter :: rest =>
      if letter = '\\' ∨ letter = mark then
        some (.char letter, ⟨rest, length_behind_first letter rest⟩)
      else
        match letterEscape? letter, escapeWidth? letter with
        | some character, _ => some (.char character, ⟨rest, length_behind_first letter rest⟩)
        | none, none => none
        | none, some width =>
            let digits := rest.take width
            if digits.length = width ∧ digits.all (fun digit => (hexValue? digit).isSome) then
              some (.ofNat (naturalOfHex digits),
                ⟨rest.drop width, Nat.lt_succ_of_le (List.drop_sublist _ _).length_le⟩)
            else none

def unquoteBody? (mark : Char) : List Char → Option CodeText
  | [] => none
  | first :: rest =>
      if first = mark then if rest = [] then some [] else none
      else if first = '\\' then
        match readEscape? mark rest with
        | none => none
        | some (point, later) => (unquoteBody? mark later.val).map (point :: ·)
      else (unquoteBody? mark rest).map (.char first :: ·)
termination_by text => text.length
decreasing_by
  · exact Nat.lt_succ_of_lt later.property
  · exact length_behind_first first rest

def unquote? : List Char → Option CodeText
  | [] => none
  | mark :: body => if mark = '\'' ∨ mark = '"' then unquoteBody? mark body else none

theorem hex_digit_member {width value : Nat} {character : Char}
    (member : character ∈ hexDigits width value) :
    ∃ digit : Fin 16, character = Nat.digitChar digit := by
  induction width generalizing value with
  | zero => contradiction
  | succ width induction =>
      rcases List.mem_append.mp member with before | last
      · exact induction before
      · exact ⟨⟨value % 16, Nat.mod_lt _ (by decide)⟩, List.mem_singleton.mp last⟩

theorem natural_of_hex_digits (width value : Nat) :
    naturalOfHex (hexDigits width value) = value % 16 ^ width := by
  induction width generalizing value with
  | zero => exact (Nat.mod_one value).symm
  | succ width induction =>
      have last : hexValue? (Nat.digitChar (value % 16)) = some (value % 16) :=
        hex_value_digit_char ⟨value % 16, Nat.mod_lt _ (by decide)⟩
      have snoc : naturalOfHex (hexDigits (width + 1) value) =
          16 * naturalOfHex (hexDigits width (value / 16)) + value % 16 := by
        rw [hexDigits, naturalOfHex, List.foldl_append, List.foldl_cons, List.foldl_nil, last]
        rfl
      rw [snoc, induction, Nat.pow_succ, Nat.mul_comm (16 ^ width), Nat.mod_mul]
      omega

theorem hex_digits_print (width value : Nat) : Prints (hexDigits width value) := by
  have digits : ∀ digit : Fin 16, isPrintable (Nat.digitChar digit) = true := by decide
  intro character member
  obtain ⟨digit, rfl⟩ := hex_digit_member member
  exact digits digit

theorem numeric_escape_prints (code : Nat) : Prints (numericEscape code) := by
  have escape : ∀ letter, isPrintable letter = true → ∀ width,
      Prints ('\\' :: letter :: hexDigits width code) := by
    intro letter prints width
    exact prints_cons.mpr ⟨by decide, prints_cons.mpr ⟨prints, hex_digits_print width code⟩⟩
  rw [numericEscape]
  split
  · exact escape 'x' (by decide) 2
  · split
    · exact escape 'u' (by decide) 4
    · exact escape 'U' (by decide) 8

section Marks

variable {mark : Char} (quote : mark = '\'' ∨ mark = '"')
include quote

theorem letter_no_mark {letter : Char}
    (means : letterEscape? letter ≠ none ∨ escapeWidth? letter ≠ none) :
    ¬(letter = '\\' ∨ letter = mark) := by
  have meaningless : letterEscape? mark = none ∧ escapeWidth? mark = none := by
    rcases quote with rfl | rfl
    · exact ⟨rfl, rfl⟩
    · exact ⟨rfl, rfl⟩
  intro special
  rcases special with rfl | rfl
  · exact means.elim (fun escapes => escapes rfl) (fun widens => widens rfl)
  · exact means.elim (fun escapes => escapes meaningless.1) (fun widens => widens meaningless.2)

theorem read_code_point {letter : Char} {point : CodePoint} {width : Nat}
    (noEscape : letterEscape? letter = none) (wide : escapeWidth? letter = some width)
    (small : point.toNat < 16 ^ width) (rest : List Char) :
    Finds (readEscape? mark (letter :: (hexDigits width point.toNat ++ rest))) point rest := by
  have noMark : ¬(letter = '\\' ∨ letter = mark) := by
    apply letter_no_mark quote
    rw [wide]
    exact Or.inr (Option.some_ne_none width)
  have taken : (hexDigits width point.toNat ++ rest).take width =
      hexDigits width point.toNat := List.take_left' (hex_digits_length width _)
  have dropped : (hexDigits width point.toNat ++ rest).drop width = rest :=
    List.drop_left' (hex_digits_length width _)
  have digits : (hexDigits width point.toNat).length = width ∧
      (hexDigits width point.toNat).all (fun digit => (hexValue? digit).isSome) = true := by
    refine ⟨hex_digits_length width _, List.all_eq_true.mpr ?_⟩
    intro digit member
    obtain ⟨value, rfl⟩ := hex_digit_member member
    rw [hex_value_digit_char]
    rfl
  refine ⟨⟨(hexDigits width point.toNat ++ rest).drop width,
    Nat.lt_succ_of_le (List.drop_sublist _ _).length_le⟩, ?_, dropped⟩
  simp only [readEscape?, if_neg noMark, noEscape, wide, taken]
  rw [if_pos digits, natural_of_hex_digits, Nat.mod_eq_of_lt small, CodePoint.of_nat_to_nat]

theorem read_numeric_escape (point : CodePoint) (rest : List Char) :
    ∃ escape, numericEscape point.toNat = '\\' :: escape ∧
      Finds (readEscape? mark (escape ++ rest)) point rest := by
  have bound := point.to_nat_bound
  rw [numericEscape]
  split
  · rename_i small
    exact ⟨_, rfl, read_code_point quote rfl rfl (by omega) rest⟩
  · split
    · rename_i small
      exact ⟨_, rfl, read_code_point quote rfl rfl (by omega) rest⟩
    · exact ⟨_, rfl, read_code_point quote rfl rfl (by omega) rest⟩

theorem unquote_escape {point : CodePoint} {escape rest : List Char}
    (found : Finds (readEscape? mark escape) point rest) :
    unquoteBody? mark ('\\' :: escape) = (unquoteBody? mark rest).map (point :: ·) := by
  obtain ⟨later, read, rfl⟩ := found
  have noMark : '\\' ≠ mark := by
    rcases quote with rfl | rfl <;> decide
  rw [unquoteBody?, if_neg noMark, if_pos rfl]
  simp only [read]

theorem read_letter {letter character : Char} (denotes : letterEscape? letter = some character)
    (rest : List Char) : Finds (readEscape? mark (letter :: rest)) (.char character) rest := by
  have noMark : ¬(letter = '\\' ∨ letter = mark) := by
    apply letter_no_mark quote
    rw [denotes]
    exact Or.inl (Option.some_ne_none character)
  refine ⟨⟨rest, length_behind_first letter rest⟩, ?_, rfl⟩
  simp only [readEscape?, if_neg noMark, denotes]

theorem unquote_char (character : Char) (rest : List Char) :
    unquoteBody? mark (quoteChar mark character ++ rest) =
      (unquoteBody? mark rest).map (.char character :: ·) := by
  unfold quoteChar
  split
  · rename_i special
    apply unquote_escape quote
    refine ⟨⟨rest, length_behind_first _ rest⟩, ?_, rfl⟩
    exact if_pos special
  rename_i plain
  obtain ⟨noBackslash, noMark⟩ := not_or.mp plain
  split
  · rename_i lineFeed
    rw [lineFeed]
    exact unquote_escape quote (read_letter quote rfl rest)
  split
  · rename_i carriageReturn
    rw [carriageReturn]
    exact unquote_escape quote (read_letter quote rfl rest)
  split
  · rename_i tab
    rw [tab]
    exact unquote_escape quote (read_letter quote rfl rest)
  split
  · rw [List.singleton_append, unquoteBody?, if_neg noMark, if_neg noBackslash]
  · obtain ⟨escape, written, found⟩ := read_numeric_escape quote (.char character) rest
    rw [CodePoint.toNat] at written
    rw [written]
    exact unquote_escape quote found

theorem unquote_point (point : CodePoint) (rest : List Char) :
    unquoteBody? mark (quotePoint mark point ++ rest) =
      (unquoteBody? mark rest).map (point :: ·) := by
  cases point with
  | char character => exact unquote_char quote character rest
  | surrogate index =>
      obtain ⟨escape, written, found⟩ := read_numeric_escape quote (.surrogate index) rest
      rw [quotePoint, written]
      exact unquote_escape quote found

theorem unquote_body (text : CodeText) :
    unquoteBody? mark (text.flatMap (quotePoint mark) ++ [mark]) = some text := by
  induction text with
  | nil => rw [List.flatMap_nil, List.nil_append, unquoteBody?, if_pos rfl, if_pos rfl]
  | cons point text induction =>
      rw [List.flatMap_cons, List.append_assoc, unquote_point quote, induction]
      rfl

theorem quote_char_prints (character : Char) : Prints (quoteChar mark character) := by
  have markPrints : isPrintable mark = true := by
    rcases quote with rfl | rfl <;> decide
  have backslash : isPrintable '\\' = true := by decide
  unfold quoteChar
  split
  · rename_i special
    refine prints_cons.mpr ⟨backslash, List.forall_mem_singleton.mpr ?_⟩
    rcases special with rfl | rfl
    · exact backslash
    · exact markPrints
  split
  · decide
  split
  · decide
  split
  · decide
  split
  · rename_i prints
    exact List.forall_mem_singleton.mpr prints
  · exact numeric_escape_prints character.toNat

theorem quote_point_prints (point : CodePoint) : Prints (quotePoint mark point) := by
  cases point with
  | char character => exact quote_char_prints quote character
  | surrogate index => exact numeric_escape_prints _

end Marks

theorem quote_mark_cases (text : CodeText) : quoteMark text = '\'' ∨ quoteMark text = '"' := by
  rw [quoteMark]
  split
  · exact Or.inr rfl
  · exact Or.inl rfl

theorem unquote_quote (text : CodeText) : unquote? (quoteChars text) = some text := by
  have quote := quote_mark_cases text
  rw [quoteChars, unquote?, if_pos quote]
  exact unquote_body quote text

theorem quote_prints (text : CodeText) : Prints (quoteChars text) := by
  have quote := quote_mark_cases text
  have markPrints : isPrintable (quoteMark text) = true := by
    rcases quote with mark | mark
    · rw [mark]
      decide
    · rw [mark]
      decide
  have body : Prints (text.flatMap (quotePoint (quoteMark text))) := by
    intro character member
    obtain ⟨source, _, shown⟩ := List.mem_flatMap.mp member
    exact quote_point_prints quote source character shown
  exact prints_cons.mpr
    ⟨markPrints, prints_append.mpr ⟨body, List.forall_mem_singleton.mpr markPrints⟩⟩

end ExprLexer.Text
