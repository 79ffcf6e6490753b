import ExprLexer.Proofs.FrontText
import ExprLexer.Text.Position

/-!
Places of a text, by index. The line and the column of a place are defined from the whole text
before it, and the position that moves along with a reader is shown to agree with them. A stretch
passed in one step is accounted for by its line feeds: their number, and the index of the last.
-/

namespace ExprLexer.Text

def slice (text : List Char) (start stop : Nat) : List Char := (text.take stop).drop start

def lastLineFeed? : List Char → Option Nat
  | [] => none
  | character :: rest =>
      match lastLineFeed? rest with
      | some index => some (index + 1)
      | none => if character = '\n' then some 0 else none

def lineAt (text : List Char) (place : Nat) : Nat := 1 + (text.take place).count '\n'

/-- A column counts from the last line feed before the place, or from the front of the text. -/
def columnAt (text : List Char) (place : Nat) : Nat :=
  match lastLineFeed? (text.take place) with
  | some index => place - index
  | none => place + 1

theorem begins_within {text span : List Char} {place : Nat} (within : place ≤ text.length)
    (begins : span <+: text.drop place) : place + span.length ≤ text.length := by
  have bound := begins.length_le
  rw [List.length_drop] at bound
  omega

namespace Position

theorem line_after (position : Position) (stretch : List Char) :
    (position.after stretch).line = position.line + stretch.count '\n' := by
  induction stretch generalizing position with
  | nil => rfl
  | cons character rest induction =>
      rw [after_cons, induction, List.count_cons, advance]
      by_cases feed : character = '\n'
      · simp only [feed, if_true, beq_self_eq_true]
        omega
      · simp only [feed, if_false, beq_eq_false_iff_ne.mpr feed, Bool.false_eq_true]
        omega

/-- Only the last line feed of a stretch matters for the column behind it. -/
theorem column_after (position : Position) (stretch : List Char) :
    (position.after stretch).column =
      match lastLineFeed? stretch with
      | some index => stretch.length - index
      | none => position.column + stretch.length := by
  induction stretch generalizing position with
  | nil => rfl
  | cons character rest induction =>
      rw [after_cons, induction, List.length_cons, lastLineFeed?]
      cases later : lastLineFeed? rest with
      | some index => exact (Nat.add_sub_add_right rest.length 1 index).symm
      | none =>
          by_cases feed : character = '\n'
          · have moved : (position.advance character).column = 1 := by simp [advance, feed]
            simp only [moved, if_pos feed, Nat.sub_zero]
            exact Nat.add_comm 1 rest.length
          · have moved : (position.advance character).column = position.column + 1 := by
              simp [advance, feed]
            simp only [moved, if_neg feed]
            rw [Nat.add_assoc, Nat.add_comm 1]

theorem start_after_take (text : List Char) {place : Nat} (within : place ≤ text.length) :
    start.after (text.take place) = ⟨place, lineAt text place, columnAt text place⟩ := by
  have passed : (text.take place).length = place := List.length_take_of_le within
  have offset : (start.after (text.take place)).offset = place := by
    rw [offset_after, passed]
    exact Nat.zero_add place
  have line : (start.after (text.take place)).line = lineAt text place :=
    line_after start (text.take place)
  have column : (start.after (text.take place)).column = columnAt text place := by
    rw [column_after, columnAt, passed]
    cases lastLineFeed? (text.take place) with
    | some index => rfl
    | none => exact Nat.add_comm 1 place
  calc
    start.after (text.take place) =
        ⟨(start.after (text.take place)).offset, (start.after (text.take place)).line,
          (start.after (text.take place)).column⟩ := rfl
    _ = ⟨place, lineAt text place, columnAt text place⟩ := by rw [offset, line, column]

theorem after_begins {text span : List Char} {place : Nat} (within : place ≤ text.length)
    (begins : span <+: text.drop place) :
    (⟨place, lineAt text place, columnAt text place⟩ : Position).after span =
      ⟨place + span.length, lineAt text (place + span.length),
        columnAt text (place + span.length)⟩ := by
  have joined : text.take place ++ span = text.take (place + span.length) := by
    rw [List.take_add, ← List.prefix_iff_eq_take.mp begins]
  rw [← start_after_take text within, ← after_append, joined]
  exact start_after_take text (begins_within within begins)

end Position

/-- `front` is the first place from `place` on where no blank stands; the end of the text is
such a place. -/
structure FirstInk (text : List Char) (place front : Nat) : Prop where
  reached : place ≤ front
  within : front ≤ text.length
  blanks : ∀ index, place ≤ index → index < front →
    ∃ character, text[index]? = some character ∧ isBlank character = true
  ink : ∀ character, text[front]? = some character → isBlank character = false

/-- `stop` is the first place behind `place` where a double quote or a line feed stands. -/
structure FirstStop (text : List Char) (place stop : Nat) : Prop where
  behind : place < stop
  stands : text[stop]? = some '"' ∨ text[stop]? = some '\n'
  clear : ∀ index, place < index → index < stop →
    text[index]? ≠ some '"' ∧ text[index]? ≠ some '\n'

def NoStop (text : List Char) (place : Nat) : Prop :=
  ∀ index, place < index → text[index]? ≠ some '"' ∧ text[index]? ≠ some '\n'

theorem first_ink_unique {text : List Char} {place front other : Nat}
    (left : FirstInk text place front) (right : FirstInk text place other) : front = other := by
  rcases Nat.lt_trichotomy front other with before | same | behind
  · rcases right.blanks front left.reached before with ⟨character, here, blank⟩
    rw [left.ink character here] at blank
    contradiction
  · exact same
  · rcases left.blanks other right.reached behind with ⟨character, here, blank⟩
    rw [right.ink character here] at blank
    contradiction

theorem first_stop_unique {text : List Char} {place stop other : Nat}
    (left : FirstStop text place stop) (right : FirstStop text place other) : stop = other := by
  rcases Nat.lt_trichotomy stop other with before | same | behind
  · have clear := right.clear stop left.behind before
    rcases left.stands with quote | feed
    · exact absurd quote clear.1
    · exact absurd feed clear.2
  · exact same
  · have clear := left.clear other right.behind behind
    rcases right.stands with quote | feed
    · exact absurd quote clear.1
    · exact absurd feed clear.2

theorem first_stop_excludes {text : List Char} {place stop : Nat}
    (first : FirstStop text place stop) : ¬NoStop text place := by
  intro endless
  rcases first.stands with quote | feed
  · exact (endless stop first.behind).1 quote
  · exact (endless stop first.behind).2 feed

theorem stands_inside {text before rest : List Char} {place index : Nat}
    (split : text.drop place = before ++ rest) (reached : place ≤ index)
    (inside : index < place + before.length) :
    ∃ character ∈ before, text[index]? = some character := by
  have bound : index - place < before.length := by omega
  refine ⟨before[index - place], List.getElem_mem bound, ?_⟩
  calc
    text[index]? = text[place + (index - place)]? := by rw [Nat.add_sub_cancel' reached]
    _ = (before ++ rest)[index - place]? := by rw [← List.getElem?_drop, split]
    _ = some before[index - place] := by
      rw [List.getElem?_append_left bound, List.getElem?_eq_getElem bound]

theorem stands_behind {text before rest : List Char} {place : Nat}
    (split : text.drop place = before ++ rest) : text[place + before.length]? = rest.head? := by
  rw [← List.getElem?_drop, split, List.getElem?_append_right (Nat.le_refl _), Nat.sub_self,
    List.head?_eq_getElem?]

theorem first_ink_of_split {text blanks rest : List Char} {place : Nat}
    (split : text.drop place = blanks ++ rest) (within : place ≤ text.length)
    (blank : ∀ character ∈ blanks, isBlank character = true)
    (ink : ∀ character, rest.head? = some character → isBlank character = false) :
    FirstInk text place (place + blanks.length) := by
  have total := congrArg List.length split
  rw [List.length_append, List.length_drop] at total
  refine ⟨Nat.le_add_right _ _, by omega, ?_, ?_⟩
  · intro index reached before
    rcases stands_inside split reached before with ⟨character, member, here⟩
    exact ⟨character, here, blank character member⟩
  · intro character here
    rw [stands_behind split] at here
    exact ink character here

theorem first_ink_exists (text : List Char) {place : Nat} (within : place ≤ text.length) :
    FirstInk text place (place + ((text.drop place).takeWhile isBlank).length) := by
  apply first_ink_of_split List.takeWhile_append_dropWhile.symm within
  · exact fun character member => List.mem_takeWhile_imp member
  · intro character head
    have halt := List.head?_dropWhile_not isBlank (text.drop place)
    rw [head] at halt
    exact halt

theorem drop_behind {text rest : List Char} {place : Nat} {first : Char}
    (split : text.drop place = first :: rest) : text.drop (place + 1) = rest := by
  rw [← List.drop_drop, split, List.drop_one, List.tail_cons]

theorem no_stop_inside {text body rest : List Char} {place index : Nat}
    (split : text.drop place = body ++ rest)
    (unbroken : ∀ character ∈ body, character ≠ '"' ∧ character ≠ '\n')
    (reached : place ≤ index) (inside : index < place + body.length) :
    text[index]? ≠ some '"' ∧ text[index]? ≠ some '\n' := by
  rcases stands_inside split reached inside with ⟨character, member, found⟩
  have different := unbroken character member
  rw [found]
  constructor
  · intro same
    exact different.1 (Option.some.inj same)
  · intro same
    exact different.2 (Option.some.inj same)

theorem first_stop_of_split {text body rest : List Char} {place : Nat} {stop : Char}
    (split : text.drop place = '"' :: (body ++ stop :: rest))
    (unbroken : ∀ character ∈ body, character ≠ '"' ∧ character ≠ '\n')
    (stops : stop = '"' ∨ stop = '\n') :
    FirstStop text place (place + 1 + body.length) ∧
      text[place + 1 + body.length]? = some stop := by
  have behindQuote := drop_behind split
  have here : text[place + 1 + body.length]? = some stop := stands_behind behindQuote
  refine ⟨⟨by omega, ?_, ?_⟩, here⟩
  · rw [here]
    exact stops.imp (congrArg some) (congrArg some)
  · intro index behind before
    exact no_stop_inside behindQuote unbroken behind before

theorem no_stop_of_split {text body : List Char} {place : Nat}
    (split : text.drop place = '"' :: body)
    (unbroken : ∀ character ∈ body, character ≠ '"' ∧ character ≠ '\n') :
    NoStop text place := by
  have behindQuote : text.drop (place + 1) = body ++ [] := by
    rw [drop_behind split, List.append_nil]
  intro index behind
  by_cases inside : index < place + 1 + body.length
  · exact no_stop_inside behindQuote unbroken behind inside
  · have total := congrArg List.length behindQuote
    rw [List.length_drop, List.append_nil] at total
    have nothing : text[index]? = none := List.getElem?_eq_none (by omega)
    rw [nothing]
    exact ⟨nofun, nofun⟩

end ExprLexer.Text
