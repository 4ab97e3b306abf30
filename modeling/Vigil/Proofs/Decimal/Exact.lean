import Mathlib.Data.List.Basic
import Mathlib.Tactic.Ring
import Vigil.Decimal.Binary64

/-! # Exact results

A result that is a number of double precision is not changed by rounding.

* `ofRatio_eq`: a quotient that is the size of a finite number is rounded to this number;
* `ofDecimal_eq`: so is the whole number and power of ten that a finite number is written as
  (`decimalDigits`, `decimalPlaces`). -/

namespace Vigil.Decimal.Binary64

variable {x : Binary64} {num den m : Nat} {q : Int}

/-! ### Parts -/

theorem fraction_lt : x.fraction < 2 ^ 52 := Nat.mod_lt _ (by decide)

theorem exponentField_lt : x.exponentField < 2048 := Nat.mod_lt _ (by decide)

/-- The bits are the sign, the exponent and the fraction. -/
theorem bits_eq : x.bits.toNat =
    (if x.negative then 2 ^ 63 else 0) + x.exponentField * 2 ^ 52 + x.fraction := by
  have hlt : x.bits.toNat < 2 ^ 64 := x.bits.toNat_lt
  unfold negative exponentField fraction
  simp only [Nat.pow_eq, beq_iff_eq]
  split <;> omega

theorem signed_eq {size : Nat} (hsize : size = x.exponentField * 2 ^ 52 + x.fraction) :
    signed x.negative size = x := by
  have hbits : (if x.negative then Nat.pow 2 63 + size else size) = x.bits.toNat := by
    rw [bits_eq, hsize, Nat.pow_eq]
    split <;> omega
  rw [signed, hbits, UInt64.ofNat_toNat]

theorem significand_lt : x.significand < 2 ^ 53 := by
  have hlt := x.fraction_lt
  simp only [significand, Nat.pow_eq]
  split <;> omega

/-- Only the smallest numbers have a significand of fewer than 53 bits. -/
theorem significand_ge (h : x.power ≠ -1074) : 2 ^ 52 ≤ x.significand := by
  have hne : x.exponentField ≠ 0 := by
    intro he
    simp [power, he] at h
  simp only [significand, hne, if_false, Nat.pow_eq]
  omega

theorem power_ge : -1074 ≤ x.power := by
  unfold power
  omega

theorem size_eq : (x.power + 1074).toNat * 2 ^ 52 + x.significand =
    x.exponentField * 2 ^ 52 + x.fraction := by
  simp only [power, significand, Nat.pow_eq]
  split <;> omega

theorem size_lt (h : x.isFinite = true) :
    x.exponentField * 2 ^ 52 + x.fraction < infinitySize := by
  have hlt := x.fraction_lt
  have hfield := x.exponentField_lt
  have hne : x.exponentField ≠ 2047 := by simpa [isFinite] using h
  simp only [infinitySize, Nat.pow_eq]
  omega

/-! ### Quotients -/

/-- Whether a quotient is `m * 2 ^ q`. -/
def IsScaled (num den m : Nat) (q : Int) : Prop :=
  (scaled num den q).1 = m * (scaled num den q).2

theorem scaled_pos (h : 0 < den) : 0 < (scaled num den q).2 := by
  unfold scaled
  split
  · exact Nat.mul_pos h (Nat.pow_pos (by decide))
  · exact h

theorem IsScaled.double (h : IsScaled num den m q) : IsScaled num den (2 * m) (q - 1) := by
  unfold IsScaled scaled at *
  simp only [Nat.pow_eq] at *
  by_cases hq : 1 ≤ q
  · obtain ⟨k, hk⟩ : ∃ k, q.toNat = k + 1 := ⟨q.toNat - 1, by omega⟩
    have hk' : (q - 1).toNat = k := by omega
    rw [if_pos (by omega), hk] at h
    rw [if_pos (by omega), hk', h, Nat.pow_succ]
    ring
  · obtain ⟨k, hk⟩ : ∃ k, (-(q - 1)).toNat = k + 1 := ⟨(-(q - 1)).toNat - 1, by omega⟩
    have hk' : num * 2 ^ k = m * den := by
      by_cases hzero : q = 0
      · obtain rfl : k = 0 := by omega
        simpa [hzero] using h
      · rw [if_neg (by omega)] at h
        rwa [show k = (-q).toNat by omega]
    rw [if_neg (by omega), hk, Nat.pow_succ, Nat.mul_comm _ 2, ← Nat.mul_assoc,
      Nat.mul_right_comm, hk']
    ring

theorem log2_mul_two_pow {n : Nat} (hn : n ≠ 0) (k : Nat) : (n * 2 ^ k).log2 = n.log2 + k := by
  have hpos : 0 < 2 ^ k := Nat.pow_pos (by decide)
  refine (Nat.log2_eq_iff (Nat.mul_ne_zero hn hpos.ne')).mpr ⟨?_, ?_⟩
  · rw [Nat.pow_add]
    exact Nat.mul_le_mul_right _ (Nat.log2_self_le hn)
  · rw [Nat.add_right_comm, Nat.pow_add]
    exact Nat.mul_lt_mul_of_pos_right Nat.lt_log2_self hpos

/-- The highest bit of a product. -/
theorem log2_mul_bounds (hm : m ≠ 0) {d : Nat} (hd : d ≠ 0) :
    m.log2 + d.log2 ≤ (m * d).log2 ∧ (m * d).log2 ≤ m.log2 + d.log2 + 1 := by
  have hne : m * d ≠ 0 := Nat.mul_ne_zero hm hd
  constructor
  · rw [Nat.le_log2 hne, Nat.pow_add]
    exact Nat.mul_le_mul (Nat.log2_self_le hm) (Nat.log2_self_le hd)
  · rw [← Nat.lt_succ_iff, Nat.log2_lt hne, Nat.succ_eq_add_one,
      show m.log2 + d.log2 + 1 + 1 = (m.log2 + 1) + (d.log2 + 1) by omega, Nat.pow_add]
    exact Nat.mul_lt_mul'' Nat.lt_log2_self Nat.lt_log2_self

/-- Scaling by a power of two moves the highest bits apart. -/
theorem log2_scaled (hnum : num ≠ 0) (hden : den ≠ 0) :
    ((scaled num den q).1.log2 : Int) - (scaled num den q).2.log2 = num.log2 - den.log2 - q := by
  unfold scaled
  simp only [Nat.pow_eq]
  split
  · simp only [log2_mul_two_pow hden]
    omega
  · simp only [log2_mul_two_pow hnum]
    omega

/-- The power of two that is guessed for a quotient of the size of a finite number is that of the
number, or the next smaller one. -/
theorem guess_eq (hnum : num ≠ 0) (hden : den ≠ 0)
    (h : IsScaled num den x.significand x.power) :
    max (-1074) ((num.log2 : Int) - den.log2 - 53) = x.power ∨
      max (-1074) ((num.log2 : Int) - den.log2 - 53) = x.power - 1 ∧ 2 ^ 52 ≤ x.significand := by
  have hd : (scaled num den x.power).2 ≠ 0 := (scaled_pos (Nat.pos_of_ne_zero hden)).ne'
  have hm : x.significand ≠ 0 := by
    intro hzero
    have hn : (scaled num den x.power).1 = 0 := by
      rw [h, hzero, Nat.zero_mul]
    unfold scaled at hn
    split at hn
    · exact hnum hn
    · exact hnum ((Nat.mul_eq_zero.mp hn).resolve_right (Nat.pow_pos (by decide)).ne')
  have hlog := log2_scaled (q := x.power) hnum hden
  rw [h] at hlog
  have hbounds := log2_mul_bounds hm hd
  have hlt : x.significand.log2 < 53 := (Nat.log2_lt hm).mpr x.significand_lt
  have hge := x.power_ge
  by_cases hp : x.power = -1074
  · left
    omega
  · have hbig : 2 ^ 52 ≤ x.significand := significand_ge hp
    have hle : 52 ≤ x.significand.log2 := (Nat.le_log2 hm).mpr hbig
    omega

theorem roundHalfEven_mul {d : Nat} (hd : 0 < d) : roundHalfEven (m * d) d = m := by
  unfold roundHalfEven
  rw [Nat.mul_mod_left, Nat.mul_div_cancel _ hd]
  simp [hd.ne]

/-- A guess that is too small is set right. -/
theorem power_of_guess {guess : Int} (hden : 0 < den)
    (h : IsScaled num den x.significand x.power)
    (hguess : guess = x.power ∨ guess = x.power - 1 ∧ 2 ^ 52 ≤ x.significand) :
    (if Nat.pow 2 53 ≤ (scaled num den guess).1 / (scaled num den guess).2 then guess + 1
      else guess) = x.power := by
  have hlt := x.significand_lt
  rw [Nat.pow_eq]
  rcases hguess with rfl | ⟨rfl, hbig⟩
  · rw [h, Nat.mul_div_cancel _ (scaled_pos hden), if_neg (Nat.not_le.mpr hlt)]
  · have hdouble : IsScaled num den (2 * x.significand) (x.power - 1) := h.double
    rw [hdouble, Nat.mul_div_cancel _ (scaled_pos hden), if_pos (by omega)]
    omega

/-- **Exact quotients.** The size of a finite number is rounded to the number. -/
theorem ofRatio_eq (hx : x.isFinite = true) (hnum : num ≠ 0) (hden : den ≠ 0)
    (h : IsScaled num den x.significand x.power) : ofRatio x.negative num den = x := by
  have hpos : 0 < den := Nat.pos_of_ne_zero hden
  have hpower := power_of_guess hpos h (guess_eq hnum hden h)
  unfold ofRatio
  rw [if_neg (by simp [hnum, hden])]
  simp only [hpower]
  rw [h, roundHalfEven_mul (scaled_pos hpos), Nat.pow_eq, size_eq,
    Nat.min_eq_left (size_lt hx).le]
  exact signed_eq rfl

/-! ### Decimals -/

/-- The whole number in the decimal form of a finite number. -/
def decimalDigits (x : Binary64) : Nat :=
  if 0 ≤ x.power then x.significand * 2 ^ x.power.toNat else x.significand * 5 ^ (-x.power).toNat

/-- The power of ten by which the whole number in the decimal form of a finite number is divided. -/
def decimalPlaces (x : Binary64) : Nat := (-x.power).toNat

theorem log2_five_pow (k : Nat) : k ≤ (5 ^ k).log2 :=
  (Nat.le_log2 (Nat.pow_pos (by decide)).ne').mpr (Nat.pow_le_pow_left (by decide) k)

/-- **Exact decimals.** A finite number is the one nearest to its decimal form. -/
theorem ofDecimal_eq (hx : x.isFinite = true) :
    ofDecimal x.negative x.decimalDigits (-x.decimalPlaces) = x := by
  by_cases hzero : x.significand = 0
  · have hsize := x.size_eq
    have hp : x.power = -1074 := by
      by_contra hp
      have := significand_ge hp
      omega
    have hdigits : x.decimalDigits = 0 := by
      simp [decimalDigits, hzero]
    rw [ofDecimal, if_pos hdigits]
    refine signed_eq ?_
    rw [← hsize, hzero, hp]
    rfl
  unfold ofDecimal decimalDigits decimalPlaces
  by_cases hp : 0 ≤ x.power
  · have hne : x.significand * 2 ^ x.power.toNat ≠ 0 :=
      Nat.mul_ne_zero hzero (Nat.pow_pos (by decide)).ne'
    have hplaces : (-x.power).toNat = 0 := by omega
    rw [if_pos hp, hplaces, if_neg hne, if_neg (by decide), if_neg (by omega), if_pos (by decide)]
    refine ofRatio_eq hx (by simpa using hne) (by decide) ?_
    simp [IsScaled, scaled, hp]
  · have hne : x.significand * 5 ^ (-x.power).toNat ≠ 0 :=
      Nat.mul_ne_zero hzero (Nat.pow_pos (by decide)).ne'
    have hlog := (log2_mul_bounds hzero (Nat.pow_pos (n := (-x.power).toNat) (show 0 < 5 by decide)).ne').1
    have hfive := log2_five_pow (-x.power).toNat
    rw [if_neg hp, if_neg hne, if_neg (by omega), if_neg (by omega), if_neg (by omega), neg_neg,
      Int.toNat_natCast]
    refine ofRatio_eq hx hne (Nat.pow_pos (by decide)).ne' ?_
    rw [IsScaled, scaled, if_neg hp]
    simp only [Nat.pow_eq]
    rw [Nat.mul_assoc, ← Nat.mul_pow]

end Vigil.Decimal.Binary64
