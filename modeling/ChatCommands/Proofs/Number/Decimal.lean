import ChatCommands.Number.Decimal
import ChatCommands.Text.DecimalDigit

/-! # Decimal integers and their digits

Reading from the left against a limit accepts exactly the numbers up to the limit, written in ASCII
digits.
-/

namespace ChatCommands.Number

open Text

variable {limit n m : Nat} {s : List Char}

/-- More digits make no number smaller. -/
theorem le_ofDigitChars (n : Nat) (s : List Char) : n ≤ Nat.ofDigitChars 10 s n := by
  induction s generalizing n with
  | nil => exact Nat.le_refl n
  | cons c cs ih =>
    rw [Nat.ofDigitChars_cons]
    have hmore := ih (10 * n + (c.toNat - '0'.toNat))
    omega

theorem readDigits_eq_ok_iff (hn : n ≤ limit) : readDigits limit n s = .ok m ↔
    (∀ c ∈ s, c.isDigit = true) ∧ Nat.ofDigitChars 10 s n = m ∧ m ≤ limit := by
  induction s generalizing n with
  | nil =>
    simp only [readDigits, Except.ok.injEq, List.not_mem_nil, false_implies, implies_true, true_and,
      Nat.ofDigitChars_nil]
    exact ⟨fun h => ⟨h, h ▸ hn⟩, And.left⟩
  | cons c cs ih =>
    rw [readDigits, List.forall_mem_cons, Nat.ofDigitChars_cons]
    cases hc : c.isDigit with
    | false => simp
    | true =>
      simp only [Bool.not_true, Bool.false_eq_true, if_false, true_and]
      split
      · rename_i hle
        exact ih hle
      · rename_i hgt
        have hle := le_ofDigitChars (10 * n + digitValue c) cs
        rw [digitValue] at hle hgt
        refine iff_of_false nofun ?_
        rintro ⟨-, rfl, hm⟩
        omega

theorem readDecimal_eq_ok_iff : readDecimal limit s = .ok n ↔
    s ≠ [] ∧ (∀ c ∈ s, c.isDigit = true) ∧ Nat.ofDigitChars 10 s 0 = n ∧ n ≤ limit := by
  rw [readDecimal]
  cases s with
  | nil => simp
  | cons c cs =>
    rw [List.isEmpty_cons, if_neg Bool.false_ne_true, readDigits_eq_ok_iff (Nat.zero_le limit)]
    exact (and_iff_right (List.cons_ne_nil c cs)).symm

theorem isDigit_of_mem_toDigits : ∀ c ∈ Nat.toDigits 10 n, c.isDigit = true := fun _ =>
  Nat.isDigit_of_mem_toDigits (by decide) (by decide)

theorem isDecimalDigit_of_isDigit {c : Char} (h : c.isDigit = true) : isDecimalDigit c = true := by
  rw [isDecimalDigit, h, Bool.true_or]

theorem le_maxWord_iff : n ≤ maxWord ↔ n < UInt64.size := by
  rw [maxWord, UInt64.size]
  omega

end ChatCommands.Number
