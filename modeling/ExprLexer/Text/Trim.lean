/-!
Dropping characters from the end of a text.
-/

namespace ExprLexer.Text

def trimEnd (drops : Char → Bool) (text : List Char) : List Char :=
  (text.reverse.dropWhile drops).reverse

@[simp] theorem trim_end_nil (drops : Char → Bool) : trimEnd drops [] = [] := rfl

theorem trim_end_append_singleton {drops : Char → Bool} {last : Char}
    (text : List Char) (kept : drops last = false) :
    trimEnd drops (text ++ [last]) = text ++ [last] := by
  simp [trimEnd, kept]

theorem trim_end_split (drops : Char → Bool) (text : List Char) :
    ∃ dropped, text = trimEnd drops text ++ dropped ∧
      ∀ character ∈ dropped, drops character = true := by
  refine ⟨(text.reverse.takeWhile drops).reverse, ?_, ?_⟩
  · rw [trimEnd, ← List.reverse_append, List.takeWhile_append_dropWhile, List.reverse_reverse]
  · intro character member
    have run : (text.reverse.takeWhile drops).all drops = true := List.all_takeWhile
    exact List.all_eq_true.mp run character (List.mem_reverse.mp member)

theorem last_of_trim_end {drops : Char → Bool} {text : List Char} {last : Char}
    (ends : (trimEnd drops text).getLast? = some last) : drops last = false := by
  have stop := List.head?_dropWhile_not drops text.reverse
  rw [trimEnd, List.getLast?_reverse] at ends
  rw [ends] at stop
  exact stop

/-- A text stays whole just if its last character is kept. -/
theorem trim_end_eq_self_iff {drops : Char → Bool} {text : List Char} :
    trimEnd drops text = text ↔ ∀ last, text.getLast? = some last → drops last = false := by
  constructor
  · intro whole last ends
    rw [← whole] at ends
    exact last_of_trim_end ends
  · intro kept
    rcases List.eq_nil_or_concat text with rfl | ⟨before, last, rfl⟩
    · rfl
    · rw [List.concat_eq_append] at kept ⊢
      exact trim_end_append_singleton before (kept last List.getLast?_concat)

end ExprLexer.Text
