import ExprLexer.LexError
import ExprLexer.Location
import Mathlib.Data.List.Basic

/-!
Places as text. An error tells what is known of its place, the parts joined by colons. The text of
an integer is not empty and holds no colon, so nothing is trimmed off a place that ends in a line
or a column, and a place with both of them is told as a location is. A place that is a file alone
is trimmed of its own colons.
-/

namespace ExprLexer

open Text

theorem integer_text_present (value : Int) : (toString value).toList ≠ [] := by
  cases value with
  | ofNat number =>
      rw [Int.toString_eq_repr, Int.repr, Nat.toList_repr]
      exact Nat.toDigits_ne_nil
  | negSucc number =>
      rw [Int.toString_eq_repr, Int.repr, String.toList_append]
      exact List.append_ne_nil_of_left_ne_nil (by decide) _

theorem integer_text_characters {value : Int} {character : Char}
    (member : character ∈ (toString value).toList) :
    character = '-' ∨ character.isDigit = true := by
  cases value with
  | ofNat number =>
      rw [Int.toString_eq_repr, Int.repr, Nat.toList_repr] at member
      exact Or.inr (Nat.isDigit_of_mem_toDigits (by decide) (by decide) member)
  | negSucc number =>
      rw [Int.toString_eq_repr, Int.repr, String.toList_append, List.mem_append,
        Nat.toList_repr] at member
      rcases member with sign | digit
      · exact Or.inl (List.mem_singleton.mp sign)
      · exact Or.inr (Nat.isDigit_of_mem_toDigits (by decide) (by decide) digit)

theorem integer_text_no_colon (value : Int) : ':' ∉ (toString value).toList := by
  intro member
  rcases integer_text_characters member with sign | digit
  · exact absurd sign (by decide)
  · exact absurd digit (by decide)

namespace LexError

/-- What is known of the place of an error: the file unless it has no name, the line, and the
column of that line. -/
def knownParts (error : LexError) : List String :=
  error.file.toList.filter (· ≠ "") ++
    error.line.toList.flatMap fun line => toString line :: error.column.toList.map toString

def wholeText (error : LexError) : String :=
  match error.knownParts with
  | [] => error.message
  | parts => String.intercalate ":" parts ++ " " ++ error.message

structure LosesColons (error : LexError) : Prop where
  lineUnknown : error.line = none
  colonLast : ∃ file, error.file = some file ∧ file.toList.getLast? = some ':'

theorem place_parts_known (error : LexError) : error.placeParts = error.knownParts := by
  rcases error with ⟨fault, line, column, offset, file⟩
  simp only [placeParts, knownParts]
  congr 1
  · cases file with
    | none => rfl
    | some file => by_cases empty : file = "" <;> simp [empty]
  · cases line with
    | none => rfl
    | some line => cases column <;> rfl

theorem place_before_integer (parts : List String) (value : Int) :
    place (parts ++ [toString value]) = String.intercalate ":" (parts ++ [toString value]) := by
  have ends : ∃ before, (String.intercalate ":" (parts ++ [toString value])).toList =
      before ++ (toString value).toList := by
    cases parts with
    | nil => exact ⟨[], by rw [List.nil_append, String.intercalate_singleton, List.nil_append]⟩
    | cons first later =>
        rw [String.intercalate_append_of_ne_nil (List.cons_ne_nil _ _) (List.cons_ne_nil _ _),
          String.intercalate_singleton, String.toList_append]
        exact ⟨_, rfl⟩
  obtain ⟨before, split⟩ := ends
  -- the last character belongs to the integer, so the trim stops at it
  have kept : ∀ last, (String.intercalate ":" (parts ++ [toString value])).toList.getLast? =
      some last → (last == ':') = false := by
    intro last final
    rw [split, List.getLast?_append_of_ne_nil _ (integer_text_present value)] at final
    have member := List.mem_of_getLast? final
    rw [beq_eq_false_iff_ne]
    intro colon
    rw [colon] at member
    exact integer_text_no_colon value member
  rw [place, trim_end_eq_self_iff.mpr kept, String.ofList_toList]

theorem text_of_kept_place {error : LexError} (kept : place error.knownParts =
    String.intercalate ":" error.knownParts) : error.text = error.wholeText := by
  rw [text, wholeText, place_parts_known]
  generalize error.knownParts = parts at kept ⊢
  cases parts with
  | nil => rfl
  | cons first later => simp only [kept]

theorem text_with_line {error : LexError} {line : Int} (known : error.line = some line) :
    error.text = error.wholeText := by
  apply text_of_kept_place
  rw [knownParts, known]
  cases error.column with
  | none => exact place_before_integer _ line
  | some column =>
      have inner :=
        place_before_integer (error.file.toList.filter (· ≠ "") ++ [toString line]) column
      rw [List.append_assoc] at inner
      exact inner

/-- An error with a line and a column tells its place as a location does. -/
theorem text_by_location {error : LexError} {line column : Int} (lineKnown : error.line = some line)
    (columnKnown : error.column = some column) (offset endOffset : Int) :
    error.text =
      (⟨line, column, offset, endOffset, error.file⟩ : Location).text ++ " " ++ error.message := by
  have parts : error.knownParts =
      error.file.toList.filter (· ≠ "") ++ [toString line, toString column] := by
    rw [knownParts, lineKnown, columnKnown]
    rfl
  rw [text_with_line lineKnown, wholeText, parts, Location.text]
  cases error.file with
  | none => simp [String.intercalate_cons_cons]
  | some file =>
      by_cases empty : file = ""
      · simp [empty, String.intercalate_cons_cons]
      · simp [empty, String.intercalate_cons_cons, String.append_assoc]

/-- A file that is all that is known is told without the colons at its end. -/
theorem text_of_lone_file {error : LexError} {file : String} (lineUnknown : error.line = none)
    (named : error.file = some file) (present : file ≠ "") :
    error.text = String.ofList (trimEnd (· == ':') file.toList) ++ " " ++ error.message ∧
      error.wholeText = file ++ " " ++ error.message := by
  have parts : error.knownParts = [file] := by
    rw [knownParts, lineUnknown, named]
    simp [present]
  constructor
  · rw [text, place_parts_known, parts]
    simp only [place, String.intercalate_singleton]
  · rw [wholeText, parts]
    simp only [String.intercalate_singleton]

theorem text_of_no_file {error : LexError} (lineUnknown : error.line = none)
    (nameless : error.file = none ∨ error.file = some "") : error.text = error.wholeText := by
  have parts : error.knownParts = [] := by
    rw [knownParts, lineUnknown]
    rcases nameless with absent | empty
    · rw [absent]
      rfl
    · rw [empty]
      rfl
  rw [text, wholeText, place_parts_known, parts]

theorem text_without_loss {error : LexError} (keeps : ¬error.LosesColons) :
    error.text = error.wholeText := by
  cases lineKnown : error.line with
  | some line => exact text_with_line lineKnown
  | none =>
      cases named : error.file with
      | none => exact text_of_no_file lineKnown (Or.inl named)
      | some file =>
          by_cases empty : file = ""
          · rw [empty] at named
            exact text_of_no_file lineKnown (Or.inr named)
          · obtain ⟨trimmed, whole⟩ := text_of_lone_file lineKnown named empty
            have kept : trimEnd (· == ':') file.toList = file.toList := by
              apply trim_end_eq_self_iff.mpr
              intro last ends
              rw [beq_eq_false_iff_ne]
              intro colon
              rw [colon] at ends
              exact keeps ⟨lineKnown, file, named, ends⟩
            rw [trimmed, whole, kept, String.ofList_toList]

theorem text_with_loss {error : LexError} (loses : error.LosesColons) :
    ∃ kept colons : String, error.file = some (kept ++ colons) ∧ colons ≠ "" ∧
      (∀ character ∈ colons.toList, character = ':') ∧ kept.toList.getLast? ≠ some ':' ∧
      error.text = kept ++ " " ++ error.message ∧
      error.wholeText = kept ++ colons ++ " " ++ error.message := by
  obtain ⟨lineUnknown, file, named, colonLast⟩ := loses
  have present : file ≠ "" := by
    intro empty
    rw [empty] at colonLast
    contradiction
  obtain ⟨trimmed, whole⟩ := text_of_lone_file lineUnknown named present
  obtain ⟨dropped, split, colon⟩ := trim_end_split (· == ':') file.toList
  have trims : ¬(trimEnd (· == ':') file.toList).getLast? = some ':' := by
    intro ends
    exact absurd (last_of_trim_end ends) (by decide)
  have joined : String.ofList (trimEnd (· == ':') file.toList) ++ String.ofList dropped = file := by
    rw [← String.ofList_append, ← split, String.ofList_toList]
  refine ⟨String.ofList (trimEnd (· == ':') file.toList), String.ofList dropped, ?_, ?_, ?_, ?_,
    trimmed, ?_⟩
  · rw [joined, named]
  · intro nothing
    have empty : dropped = [] := by
      have characters := congrArg String.toList nothing
      rwa [String.toList_ofList] at characters
    rw [empty, List.append_nil] at split
    rw [split] at colonLast
    exact trims colonLast
  · intro character member
    rw [String.toList_ofList] at member
    exact eq_of_beq (colon character member)
  · rw [String.toList_ofList]
    exact trims
  · rw [joined, whole]

/-- An error tells each known part of its place as it is and then its message, but for one case: a
file that is all that is known loses the colons at its end. -/
theorem text_whole_but_for_last_colons (error : LexError) :
    (error.text = error.wholeText ↔ ¬error.LosesColons) ∧
    (error.LosesColons → ∃ kept colons : String, error.file = some (kept ++ colons) ∧
      colons ≠ "" ∧ (∀ character ∈ colons.toList, character = ':') ∧
      kept.toList.getLast? ≠ some ':' ∧ error.text = kept ++ " " ++ error.message) := by
  refine ⟨⟨?_, text_without_loss⟩, ?_⟩
  · intro same loses
    obtain ⟨kept, colons, _, present, _, _, trimmed, whole⟩ := text_with_loss loses
    rw [trimmed, whole] at same
    have lengths := congrArg String.length same
    simp only [String.length_append] at lengths
    exact present (String.length_eq_zero_iff.mp (by omega))
  · intro loses
    obtain ⟨kept, colons, named, present, colon, ends, trimmed, _⟩ := text_with_loss loses
    exact ⟨kept, colons, named, present, colon, ends, trimmed⟩

/-- A file named `notes:` is told without its colon. -/
theorem lone_file_loses_its_colon :
    let error : LexError := ⟨.general "bad input", none, none, none, some "notes:"⟩
    error.text = "notes bad input" ∧ error.wholeText = "notes: bad input" ∧
      error.text ≠ error.wholeText := by
  decide +kernel

end LexError

end ExprLexer
