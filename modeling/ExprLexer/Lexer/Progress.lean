import ExprLexer.Lexer.Basic
import ExprLexer.Text.Shorter

/-!
Every token takes at least one character, so reading tokens comes to an end.
-/

namespace ExprLexer

theorem Front.span_ne_nil {text span : List Char} {payload : Payload}
    (front : Front.of text = .lexeme payload span) : span ≠ [] := by
  intro empty
  subst empty
  cases text with
  | nil => simp [Front.of] at front
  | cons first rest =>
      simp only [Front.of] at front
      split at front
      · simp [Front.ofName] at front
      · rename_i digit
        have isDigit : Text.isDecimalDigit first = true := by
          unfold CharClass.of at digit
          repeat' split at digit
          all_goals simp_all
        simp only [Front.ofDigits] at front
        split at front <;> simp [isDigit] at front
      · simp only [Front.ofQuote] at front
        split at front
        · simp at front
        · split at front <;> simp at front
      · simp at front
      · simp at front
      · simp at front

namespace Lexer

theorem length_rest_consume_le (lexer : Lexer) (span : List Char) :
    (lexer.consume span).rest.length ≤ lexer.rest.length := by
  simp [consume]

theorem length_rest_consume_lt (lexer : Lexer) {span : List Char}
    (more : lexer.rest ≠ []) (taken : span ≠ []) :
    (lexer.consume span).rest.length < lexer.rest.length := by
  have := List.length_pos_iff.2 more
  have := List.length_pos_iff.2 taken
  simp only [consume, List.length_drop]
  omega

theorem length_rest_next_lt {lexer : Lexer} {token : Token}
    (delivered : lexer.next.outcome = .token token) :
    lexer.next.lexer.rest.length < lexer.rest.length := by
  have skipped : lexer.skipBlanks.rest.length ≤ lexer.rest.length :=
    length_rest_consume_le lexer _
  refine Nat.lt_of_lt_of_le ?_ skipped
  unfold next at delivered ⊢
  generalize lexer.skipBlanks = lexer at delivered
  unfold readFront at delivered ⊢
  split at delivered
  · simp at delivered
  · rename_i payload span front
    apply length_rest_consume_lt _ _ (Front.span_ne_nil front)
    intro empty
    simp [empty, Front.of] at front
  · simp at delivered
  · simp [unterminated] at delivered
  · split at delivered <;> simp [unterminated] at delivered

end Lexer

end ExprLexer
