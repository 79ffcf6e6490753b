/-!
Sets of code points, written as closed ranges in ascending order.
-/

namespace ExprLexer.Text

/-- Closed ranges `(first, last)` of code points, ascending and without overlap. -/
abbrev CodeRanges := List (Nat × Nat)

namespace CodeRanges

/-- The search stops at the first range that begins beyond the code point, which is why the
ranges have to ascend. -/
def contains : CodeRanges → Nat → Bool
  | [], _ => false
  | (first, last) :: later, code =>
      if code < first then false
      else if code ≤ last then true
      else contains later code

theorem exists_range_of_contains {ranges : CodeRanges} {code : Nat}
    (found : contains ranges code = true) :
    ∃ range ∈ ranges, range.1 ≤ code ∧ code ≤ range.2 := by
  induction ranges with
  | nil => simp [contains] at found
  | cons range later induction =>
      obtain ⟨first, last⟩ := range
      simp only [contains] at found
      split at found
      · contradiction
      · split at found
        · exact ⟨(first, last), by simp, by omega, by omega⟩
        · obtain ⟨other, member, bounds⟩ := induction found
          exact ⟨other, List.mem_cons_of_mem _ member, bounds⟩

end CodeRanges

end ExprLexer.Text
