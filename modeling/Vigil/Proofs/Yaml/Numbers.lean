import Vigil.Proofs.Decimal.Exact
import Vigil.Proofs.Results
import Vigil.Proofs.Text.Digits
import Vigil.Yaml.Datum

/-! # Numbers as scalars

The text that a number is written as denotes the number.

* `digits?_toDigits`, `integer?_toDigits`, `integer?_minus_toDigits`: whole numbers;
* `decimal?_toDigits`: whole numbers with a power of ten, which are no whole numbers in this form
  (`magnitude?_exponent`);
* `ofPlain_writeNumber`: all numbers as reading gives them (`JsonNumber.IsNormal`). -/

namespace Vigil

open Vigil.Yaml Vigil.Text Vigil.Decimal

namespace Yaml

variable {c d : Char} {cs ds tail : List Char} {s : String} {n : Nat} {e : Int}

/-! ### Digits -/

theorem hexDigitValue_lt (h : c.isDigit = true) : hexDigitValue c < 10 := by
  have hc : 48 ≤ c.toNat ∧ c.toNat ≤ 57 := bounds_of_isDigit h
  rw [hexDigitValue, if_pos h, digitValue, show '0'.toNat = 48 from rfl]
  omega

theorem digits?_toDigits (n : Nat) : digits? 10 (Nat.toDigits 10 n) = some n := by
  have hall : (Nat.toDigits 10 n).all (fun c => isHexDigit c && hexDigitValue c < 10) = true := by
    rw [List.all_eq_true]
    intro c hc
    have hdigit : c.isDigit = true := isDigit_of_mem_toDigits hc
    simp [isHexDigit, hdigit, hexDigitValue_lt hdigit]
  have hfold : (Nat.toDigits 10 n).foldl (fun n c => n * 10 + hexDigitValue c) 0 =
      Nat.ofDigitChars 10 (Nat.toDigits 10 n) 0 := by
    rw [Nat.ofDigitChars_eq_foldl]
    refine List.foldl_ext _ _ _ fun m c hc => ?_
    rw [hexDigitValue, if_pos (isDigit_of_mem_toDigits hc), digitValue, Nat.mul_comm]
  have hne : (Nat.toDigits 10 n).isEmpty = false := by
    simp [Nat.toDigits_ne_nil]
  simp only [digits?, hne, hall, hfold, Nat.ofDigitChars_ten_toDigits, Bool.not_false, Bool.and_self,
    if_true]

theorem digits?_eq_none (hc : c ∈ cs) (h : 10 ≤ hexDigitValue c) : digits? 10 cs = none := by
  have hall : cs.all (fun c => isHexDigit c && hexDigitValue c < 10) = false := by
    rw [List.all_eq_false]
    exact ⟨c, hc, by simp [Nat.not_lt.mpr h]⟩
  simp only [digits?, hall, Bool.and_false, Bool.false_eq_true, if_false]

/-! ### Whole numbers -/

theorem magnitude?_of_head (h : cs.head? ≠ some '0') : magnitude? cs = digits? 10 cs := by
  have hzero : hasLeadingZero cs = false := by
    unfold hasLeadingZero
    split
    · exact absurd rfl h
    · rfl
  unfold magnitude?
  split
  case h_4 => simp [hzero]
  all_goals exact absurd rfl h

theorem magnitude?_toDigits (n : Nat) : magnitude? (Nat.toDigits 10 n) = some n := by
  by_cases hn : n = 0
  · subst hn
    decide
  · rw [magnitude?_of_head (head?_toDigits hn), digits?_toDigits]

/-- Digits with an exponent are no whole number. -/
theorem magnitude?_exponent (n : Nat) (tail : List Char) :
    magnitude? (Nat.toDigits 10 n ++ 'e' :: tail) = none := by
  by_cases hn : n = 0
  · subst hn
    have hnone : digits? 10 ('0' :: 'e' :: tail) = none :=
      digits?_eq_none (c := 'e') (by simp) (by decide)
    have hzero : hasLeadingZero ('0' :: 'e' :: tail) = false := by
      simp [hasLeadingZero, show 'e'.isDigit = false by decide]
    simp [magnitude?, hnone, hzero]
  · rw [magnitude?_of_head, digits?_eq_none (c := 'e') (by simp) (by decide)]
    rw [List.head?_append_of_ne_nil _ Nat.toDigits_ne_nil]
    exact head?_toDigits hn

/-- A text that begins with a digit has no sign. -/
theorem integer?_of_isDigit (h : c.isDigit = true) : integer? (c :: cs) =
    (magnitude? (c :: cs)).bind fun n => if n < Nat.pow 2 128 then some (n : Int) else none := by
  unfold integer?
  split
  case h_1 heq =>
    cases heq
    exact absurd h (by decide)
  case h_2 heq =>
    cases heq
    exact absurd h (by decide)
  case h_3 => rfl

theorem integer?_toDigits (hn : n < 2 ^ 128) : integer? (Nat.toDigits 10 n) = some (n : Int) := by
  obtain ⟨c, cs, hcs, hc, -⟩ := exists_toDigits n
  rw [hcs, integer?_of_isDigit hc, ← hcs, magnitude?_toDigits, Option.bind_some]
  exact if_pos hn

theorem integer?_minus_toDigits (hn : n ≤ 2 ^ 127) :
    integer? ('-' :: Nat.toDigits 10 n) = some (-(n : Int)) := by
  rw [integer?, magnitude?_toDigits, Option.bind_some]
  exact if_pos hn

/-! ### Decimals -/

theorem decimal?_toDigits (negative : Bool) (he : exponent? ('e' :: tail) = some e)
    (hf : (Binary64.ofDecimal negative n e).isFinite = true) :
    decimal? negative (Nat.toDigits 10 n ++ 'e' :: tail) =
      some (Binary64.ofDecimal negative n e) := by
  have hwhole : (Nat.toDigits 10 n ++ 'e' :: tail).takeWhile Char.isDigit = Nat.toDigits 10 n := by
    rw [List.takeWhile_append_of_pos fun c => isDigit_of_mem_toDigits]
    simp [show 'e'.isDigit = false by decide]
  unfold decimal?
  simp [hwhole, digits?_toDigits, he, hf]

/-! ### Words -/

/-- Characters that no word for nothing or a truth value begins with. -/
def IsNoWord (c : Char) : Prop := c ∉ "nN~tTfF".toList

theorem isNull_eq_false (hs : s.toList = c :: cs) (hc : IsNoWord c) : isNull s = false := by
  rw [← Bool.not_eq_true]
  intro h
  simp only [isNull, Bool.or_eq_true, beq_iff_eq] at h
  rcases h with ((rfl | rfl) | rfl) | rfl <;>
  · cases hs
    exact hc (by decide)

theorem boolean?_eq_none (hs : s.toList = c :: cs) (hc : IsNoWord c) : boolean? s = none := by
  have hne (w : String) (hw : w.toList.head?.any (· ∈ "nN~tTfF".toList) = true) : (s == w) = false := by
    rw [beq_eq_false_iff_ne]
    rintro rfl
    rw [hs] at hw
    exact hc (by simpa using hw)
  unfold boolean?
  rw [hne "true" (by decide), hne "True" (by decide), hne "TRUE" (by decide),
    hne "false" (by decide), hne "False" (by decide), hne "FALSE" (by decide)]
  rfl

theorem isNoWord_of_isDigit (h : c.isDigit = true) : IsNoWord c := by
  intro hc
  have hall : ("nN~tTfF".toList.all fun d => !d.isDigit) = true := by decide
  have hc' := List.all_eq_true.mp hall c hc
  simp [h] at hc'

theorem isNoWord_minus : IsNoWord '-' := by
  unfold IsNoWord
  decide

theorem isEmpty_eq_false (hs : s.toList = c :: cs) : s.isEmpty = false := by
  rw [← Bool.not_eq_true, String.isEmpty_iff]
  rintro rfl
  cases hs

theorem ofPlain_integer (hs : s.toList = c :: cs) (hc : IsNoWord c) {i : Int}
    (hi : integer? s.toList = some i) : Atom.ofPlain s = .integer i := by
  simp [Atom.ofPlain, isEmpty_eq_false hs, isNull_eq_false hs hc, boolean?_eq_none hs hc, hi]

theorem ofPlain_float (hs : s.toList = c :: cs) (hc : IsNoWord c) {f : Binary64}
    (hi : integer? s.toList = none) (hpadded : isPadded s.toList = false)
    (hf : float? s.toList = some f) : Atom.ofPlain s = .float f := by
  simp [Atom.ofPlain, isEmpty_eq_false hs, isNull_eq_false hs hc, boolean?_eq_none hs hc, hi,
    hpadded, hf]

theorem atom?_plain {a : Atom} (h : Atom.ofPlain s = a) : atom? .plain none s = .ok a := by
  simp [atom?, h]

/-! ### Finite numbers -/

theorem exponent?_minus (n : Nat) :
    exponent? ('e' :: '-' :: Nat.toDigits 10 n) = some (-(n : Int)) := by
  simp [exponent?, digits?_toDigits]

theorem exponent?_zero : exponent? ['e', '0'] = some 0 := by decide

/-- Digits with an exponent, as they are read without a sign and with a minus. -/
theorem ofPlain_exponent {negative : Bool}
    (hs : s.toList = (if negative then ['-'] else []) ++ (Nat.toDigits 10 n ++ 'e' :: tail))
    (he : exponent? ('e' :: tail) = some e)
    (hf : (Binary64.ofDecimal negative n e).isFinite = true) :
    Atom.ofPlain s = .float (Binary64.ofDecimal negative n e) := by
  obtain ⟨c, cs, hcs, hc, -⟩ := exists_toDigits n
  have hmagnitude := magnitude?_exponent n tail
  have hdecimal := decimal?_toDigits negative he hf
  have hpadded : hasLeadingZero (Nat.toDigits 10 n ++ 'e' :: tail) = false := by
    rw [hcs]
    unfold hasLeadingZero
    split
    case h_1 d rest heq =>
      have hmem : 'e' ∈ d :: rest := by
        rw [← (List.cons.inj heq).2]
        simp
      rw [List.all_eq_false]
      exact ⟨'e', hmem, by decide⟩
    case h_2 => rfl
  have hpoint : c ≠ '.' := by
    rintro rfl
    exact absurd hc (by decide)
  have hplus : c ≠ '+' := by
    rintro rfl
    exact absurd hc (by decide)
  have hminus : c ≠ '-' := by
    rintro rfl
    exact absurd hc (by decide)
  rw [hcs, List.cons_append] at hs hmagnitude hdecimal hpadded
  cases negative with
  | true =>
    refine ofPlain_float hs isNoWord_minus ?_ ?_ ?_
    · rw [hs]
      simp [integer?, hmagnitude]
    · rw [hs]
      exact hpadded
    · rw [hs]
      simp [float?, isInfinity, hpoint, hdecimal]
  | false =>
    refine ofPlain_float hs (isNoWord_of_isDigit hc) ?_ ?_ ?_
    · rw [hs]
      simp [integer?_of_isDigit hc, hmagnitude]
    · rw [hs]
      simpa [isPadded, hplus, hminus] using hpadded
    · rw [hs]
      simpa [float?, isInfinity, hpoint, hplus, hminus] using hdecimal

end Yaml

open Yaml

/-! ### Numbers as they are written -/

/-- Numbers as reading gives them: whole numbers that are written with a sign are negative, and there
is one value that is not a number. -/
def JsonNumber.IsNormal : JsonNumber → Prop
  | .whole _ => True
  | .negative i => i.toInt < 0
  | .float f => f.isNaN = true → f = Binary64.nan

namespace Datum

theorem ofPlain_finite {f : Binary64} (hf : f.isFinite = true) :
    Atom.ofPlain (writeFloat f) = .float f := by
  have hne : f.exponentField ≠ 2047 := by simpa [Binary64.isFinite] using hf
  have hnan : f.isNaN = false := by simp [Binary64.isNaN, hne]
  have hinfinite : f.isInfinite = false := by simp [Binary64.isInfinite, hne]
  have hexact := Binary64.ofDecimal_eq hf
  have hplaces (s : String) (tail : List Char)
      (hs : s.toList = (if f.negative then ['-'] else []) ++
        (Nat.toDigits 10 f.decimalDigits ++ 'e' :: tail))
      (he : exponent? ('e' :: tail) = some (-(f.decimalPlaces : Int))) :
      Atom.ofPlain s = .float f := by
    have hplain := ofPlain_exponent hs he (by rw [hexact]; exact hf)
    rwa [hexact] at hplain
  have hsign : (if f.negative then "-" else "").toList = if f.negative then ['-'] else [] := by
    split <;> rfl
  unfold writeFloat
  simp only [hnan, hinfinite, Bool.false_eq_true, if_false]
  split
  case isTrue hp =>
    refine hplaces _ ['0'] ?_ ?_
    · simp only [String.toList_append, hsign, Nat.toString_eq_ofList_toDigits, String.toList_ofList,
        Binary64.decimalDigits, if_pos hp, Nat.pow_eq, List.append_assoc]
      rfl
    · rw [exponent?_zero, Binary64.decimalPlaces, show (-f.power).toNat = 0 by omega]
      rfl
  case isFalse hp =>
    refine hplaces _ ('-' :: Nat.toDigits 10 f.decimalPlaces) ?_ (exponent?_minus _)
    simp only [String.toList_append, hsign, Nat.toString_eq_ofList_toDigits, String.toList_ofList,
      Binary64.decimalDigits, Binary64.decimalPlaces, if_neg hp, Nat.pow_eq, List.append_assoc]
    rfl

theorem ofPlain_writeFloat {f : Binary64} (hf : f.isNaN = true → f = Binary64.nan) :
    Atom.ofPlain (writeFloat f) = .float f := by
  by_cases hfinite : f.isFinite = true
  · exact ofPlain_finite hfinite
  · have hfield : f.exponentField = 2047 := by simpa [Binary64.isFinite] using hfinite
    by_cases hfraction : f.fraction = 0
    · obtain ⟨b, rfl⟩ : ∃ b, f = Binary64.infinity b := by
        refine ⟨f.negative, (Binary64.signed_eq ?_).symm⟩
        rw [hfield, hfraction]
        rfl
      cases b <;> rfl
    · rw [hf (by simp [Binary64.isNaN, hfield, hfraction])]
      rfl

theorem fits64_of_bounds {i : Int} (hlow : -2 ^ 63 ≤ i) (hhigh : i < 2 ^ 64) :
    fits64 i = true := by
  simp only [fits64, Int.pow_eq, Bool.and_eq_true, decide_eq_true_eq]
  exact ⟨hlow, hhigh⟩

theorem ofInteger?_whole (n : UInt64) :
    ofInteger? (n.toNat : Int) = some (.number (.whole n)) := by
  have hlt := n.toNat_lt
  rw [ofInteger?, fits64_of_bounds (by omega) (by omega), if_neg (by simp),
    if_pos (Int.natCast_nonneg n.toNat), Int.toNat_natCast, UInt64.ofNat_toNat]

theorem ofInteger?_negative {i : Int64} (hi : i.toInt < 0) :
    ofInteger? i.toInt = some (.number (.negative i)) := by
  have hge := i.le_toInt
  rw [ofInteger?, fits64_of_bounds (by omega) (by omega), if_neg (by simp),
    if_neg (Int.not_le.mpr hi), Int64.ofInt_toInt]

theorem readScalar_integer {style : ScalarStyle} {tag : Option String} {s : String} {i : Int}
    {d : Datum} (ha : atom? style tag s = .ok (.integer i)) (hd : ofInteger? i = some d)
    (path : YamlPath) : readScalar style tag s path = .ok d := by
  rw [readScalar, ha]
  simp only [hd]

/-- What a number is written as denotes the number. -/
theorem readScalar_writeNumber {n : JsonNumber} (hn : n.IsNormal) (path : YamlPath) :
    readScalar .plain none (writeNumber n) path = .ok (.number n) := by
  cases n with
  | whole n =>
    obtain ⟨c, cs, hcs, hc, -⟩ := exists_toDigits n.toNat
    have hs : (writeNumber (.whole n)).toList = Nat.toDigits 10 n.toNat := Nat.toList_repr
    have hlt := n.toNat_lt
    have hi : integer? (writeNumber (.whole n)).toList = some (n.toNat : Int) := by
      rw [hs, integer?_toDigits (by omega)]
    have ha := atom?_plain (ofPlain_integer (hs.trans hcs) (isNoWord_of_isDigit hc) hi)
    exact readScalar_integer ha (ofInteger?_whole n) path
  | negative i =>
    have hi : i.toInt < 0 := hn
    have hge := i.le_toInt
    obtain ⟨m, hm⟩ := Int.eq_negSucc_of_lt_zero hi
    have hbound : m + 1 ≤ 2 ^ 63 := by
      rw [hm, Int.negSucc_eq] at hge
      omega
    have hs : (writeNumber (.negative i)).toList = '-' :: Nat.toDigits 10 (m + 1) := by
      rw [writeNumber, hm, ← Nat.toList_repr]
      exact String.toList_append
    have hint : integer? (writeNumber (.negative i)).toList = some i.toInt := by
      rw [hs, integer?_minus_toDigits (by omega), hm]
      rfl
    have ha := atom?_plain (ofPlain_integer hs isNoWord_minus hint)
    exact readScalar_integer ha (ofInteger?_negative hi) path
  | float f =>
    rw [readScalar, writeNumber, atom?_plain (ofPlain_writeFloat hn)]

end Datum

end Vigil
