import Mathlib.Data.List.Basic
import Mathlib.Data.Nat.Digits.Defs
import Vigil.Text.Digits

/-! # Digits of numbers

The decimal digits that a number is written with, the highest first and without zeros before it.

* `exists_toDigits`, `head?_toDigits`: there is a first digit, which is zero for zero only;
* `decimalValue_toDigits`: the digits denote the number;
* `toList_toString_int`, `exists_toList_toString_int`: an integer is written with the digits of its
  size, after a minus if it is negative. -/

namespace Vigil.Text

variable {c : Char} {n : Nat}

theorem bounds_of_isDigit (h : c.isDigit = true) : 48 ≤ c.toNat ∧ c.toNat ≤ 57 := by
  simpa [Char.isDigit, UInt32.le_iff_toNat_le] using h

theorem isDigit_of_mem_toDigits (h : c ∈ Nat.toDigits 10 n) : c.isDigit = true :=
  Nat.isDigit_of_mem_toDigits (by decide) (by decide) h

theorem exists_toDigits (n : Nat) : ∃ c cs, Nat.toDigits 10 n = c :: cs ∧ c.isDigit = true ∧
    ∀ d ∈ cs, d.isDigit = true := by
  obtain ⟨c, cs, hcs⟩ := List.exists_cons_of_ne_nil (Nat.toDigits_ne_nil (b := 10) (n := n))
  have hall : ∀ d ∈ c :: cs, d.isDigit = true := fun d hd => isDigit_of_mem_toDigits (hcs ▸ hd)
  exact ⟨c, cs, hcs, List.forall_mem_cons.mp hall⟩

/-- Only zero is written with a zero as the first digit. -/
theorem head?_toDigits (hn : n ≠ 0) : (Nat.toDigits 10 n).head? ≠ some '0' := by
  induction n using Nat.strongRecOn with
  | ind n ih =>
    by_cases hlt : n < 10
    · have hdigit : ∀ m < 10, m ≠ 0 → [m.digitChar].head? ≠ some '0' := by decide
      rw [Nat.toDigits_of_lt_base hlt]
      exact hdigit n hlt hn
    · rw [Nat.toDigits_of_base_le (by decide) (by omega),
        List.head?_append_of_ne_nil _ Nat.toDigits_ne_nil]
      exact ih (n / 10) (by omega) (by omega)

theorem decimalValue_toDigits (n : Nat) : decimalValue (Nat.toDigits 10 n) = n := by
  have hfold : decimalValue (Nat.toDigits 10 n) = Nat.ofDigitChars 10 (Nat.toDigits 10 n) 0 := by
    simp only [decimalValue, digitValue, Nat.ofDigitChars_eq_foldl, Nat.mul_comm]
  rw [hfold, Nat.ofDigitChars_ten_toDigits]

/-- The characters of an integer as it is written. -/
theorem toList_toString_int (n : Int) :
    (toString n).toList = (if n < 0 then ['-'] else []) ++ Nat.toDigits 10 n.natAbs := by
  rcases n with m | m
  · exact Nat.toList_repr
  · have hchars : (toString (Int.negSucc m)).toList = "-".toList ++ (m + 1).repr.toList :=
      String.toList_append
    rw [hchars, Nat.toList_repr, if_pos (Int.negSucc_lt_zero m)]
    rfl

theorem exists_toList_toString_int (n : Int) : ∃ c cs, (toString n).toList = c :: cs ∧
    (c.isDigit = true ∨ c = '-') ∧ ∀ d ∈ cs, d.isDigit = true := by
  rw [toList_toString_int]
  by_cases hn : n < 0
  · rw [if_pos hn]
    exact ⟨'-', _, rfl, Or.inr rfl, fun d => isDigit_of_mem_toDigits⟩
  · obtain ⟨c, cs, hdigits, hc, hcs⟩ := exists_toDigits n.natAbs
    rw [if_neg hn, hdigits]
    exact ⟨c, cs, rfl, Or.inl hc, hcs⟩

end Vigil.Text
