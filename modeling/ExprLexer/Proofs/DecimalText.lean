import ExprLexer.Json.NumberText
import Mathlib.Data.List.TakeWhile

/-!
Decimal digits as text: the digits of a number denote it, zeros before them change nothing, and
each zero behind them is a power of ten.
-/

namespace ExprLexer.Text

attribute [local instance (high)] instPowNat

theorem natural_of_digits_snoc (before : List Char) (last : Char) :
    naturalOfDigits (before ++ [last]) =
      10 * naturalOfDigits before + (digitValue? last).getD 0 := by
  rw [naturalOfDigits, List.foldl_append]
  rfl

theorem digit_value_digit_char :
    ∀ digit : Fin 10, digitValue? (Nat.digitChar digit) = some digit.val := by
  decide

theorem natural_of_to_digits (number : Nat) :
    naturalOfDigits (Nat.toDigits 10 number) = number := by
  induction number using Nat.strongRecOn with
  | ind number induction =>
      rw [Nat.toDigits_eq_if (by decide)]
      split
      · rename_i single
        have value := digit_value_digit_char ⟨number, single⟩
        rw [← List.nil_append [Nat.digitChar number], natural_of_digits_snoc, value]
        exact Nat.zero_add number
      · have value := digit_value_digit_char ⟨number % 10, Nat.mod_lt _ (by decide)⟩
        rw [natural_of_digits_snoc, induction (number / 10) (by omega), value]
        exact Nat.div_add_mod number 10

theorem natural_of_trailing_zeros (digits : List Char) (zeros : Nat) :
    naturalOfDigits (digits ++ List.replicate zeros '0') =
      naturalOfDigits digits * 10 ^ zeros := by
  induction zeros with
  | zero => rw [List.replicate_zero, List.append_nil, Nat.pow_zero, Nat.mul_one]
  | succ zeros induction =>
      have zero : (digitValue? '0').getD 0 = 0 := by decide
      rw [List.replicate_succ', ← List.append_assoc, natural_of_digits_snoc, induction, zero,
        Nat.pow_succ, Nat.add_zero, Nat.mul_comm 10, Nat.mul_assoc]

theorem natural_of_leading_zeros (zeros : Nat) (digits : List Char) :
    naturalOfDigits (List.replicate zeros '0' ++ digits) = naturalOfDigits digits := by
  induction zeros with
  | zero => rfl
  | succ zeros induction => exact induction

theorem to_digits_ascii {number : Nat} {character : Char}
    (member : character ∈ Nat.toDigits 10 number) : Json.isAsciiDigit character = true := by
  have digit := Nat.isDigit_of_mem_toDigits (by decide) (by decide) member
  exact digit

theorem to_digits_first {number : Nat} (present : 0 < number) :
    ∃ first more, Nat.toDigits 10 number = first :: more ∧ first ≠ '0' := by
  induction number using Nat.strongRecOn with
  | ind number induction =>
      rw [Nat.toDigits_eq_if (by decide)]
      split
      · rename_i single
        refine ⟨Nat.digitChar number, [], rfl, ?_⟩
        intro zero
        have value := digit_value_digit_char ⟨number, single⟩
        rw [show Nat.digitChar (⟨number, single⟩ : Fin 10).val = '0' from zero] at value
        have none : 0 = number := Option.some.inj value
        omega
      · obtain ⟨first, more, digits, nonzero⟩ := induction (number / 10) (by omega) (by omega)
        exact ⟨first, more ++ [Nat.digitChar (number % 10)], by rw [digits, List.cons_append],
          nonzero⟩

theorem trim_zeros_split (digits : List Char) :
    ∃ zeros, digits = trimEnd (· == '0') digits ++ List.replicate zeros '0' := by
  obtain ⟨dropped, split, zero⟩ := trim_end_split (· == '0') digits
  have run : dropped = List.replicate dropped.length '0' :=
    List.eq_replicate_of_mem fun character member => eq_of_beq (zero character member)
  rw [run] at split
  exact ⟨_, split⟩

/-- The significant digits of a number that is not zero, and the zeros behind them. -/
theorem significant_digits {number : Nat} (present : 0 < number) :
    ∃ first more zeros, trimEnd (· == '0') (Nat.toDigits 10 number) = first :: more ∧
      first ≠ '0' ∧ Nat.toDigits 10 number = first :: more ++ List.replicate zeros '0' := by
  obtain ⟨first, more, digits, nonzero⟩ := to_digits_first present
  obtain ⟨zeros, split⟩ := trim_zeros_split (Nat.toDigits 10 number)
  cases significant : trimEnd (· == '0') (Nat.toDigits 10 number) with
  | nil =>
      rw [significant, List.nil_append, digits] at split
      have member : first ∈ List.replicate zeros '0' := by
        rw [← split]
        exact List.mem_cons_self
      exact absurd (List.eq_of_mem_replicate member) nonzero
  | cons head tail =>
      rw [significant] at split
      have same : head = first := by
        rw [digits, List.cons_append] at split
        exact (List.cons.inj split).1.symm
      exact ⟨head, tail, zeros, rfl, same ▸ nonzero, split⟩

end ExprLexer.Text
