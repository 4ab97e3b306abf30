import Mathlib.Algebra.Ring.Int.Defs

/-! # Integers of 64 bits

* `FitsInt64`: the integers that 64 bits with a sign hold;
* `fitsInt64_toInt`, `FitsInt64.toInt_ofInt`: these are the integers that they stand for. -/

namespace Vigil

variable {n : Int}

/-- Whether a number fits 64 bits with a sign. -/
def FitsInt64 (n : Int) : Prop := -2 ^ 63 ≤ n ∧ n < 2 ^ 63

instance : DecidablePred FitsInt64 := fun _ => instDecidableAnd

theorem fitsInt64_toInt (i : Int64) : FitsInt64 i.toInt := ⟨i.le_toInt, i.toInt_lt⟩

theorem FitsInt64.toInt_ofInt (h : FitsInt64 n) : (Int64.ofInt n).toInt = n :=
  Int64.toInt_ofInt_of_le h.1 h.2

end Vigil
