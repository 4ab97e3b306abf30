import Mathlib.Data.List.Basic
import Vigil.Json.Reader
import Vigil.Proofs.Text.Digits

/-! # Integers in JSON texts

An integer that is written with nothing but digits, after a minus or not, is read as a whole number
where its digits fit 64 bits. Any other is read as a floating point number, or not at all where it is
too large for one (`ReadsAs`).

* `digitsFrom_of_lt`, `exists_digitsFrom_of_le`: digits that fit are all read, and others leave some;
* `exists_number?_toDigits`, `exists_value?_toString`: numbers by themselves, and as values;
* `text?_of_isPlain`: texts whose characters all stand for themselves. -/

namespace Vigil.Json

open Vigil.Text

variable {c d : Char} {cs ds tail : List Char} {n count m : Nat} {negative : Bool}

/-! ### Digits -/

/-- The number that digits make of a number before them. -/
def valueFrom (n : Nat) (ds : List Char) : Nat := ds.foldl (fun n d => n * 10 + digitValue d) n

theorem le_valueFrom (n : Nat) (ds : List Char) : n ≤ valueFrom n ds := by
  induction ds generalizing n with
  | nil => exact Nat.le_refl n
  | cons d ds ih =>
    have hrest : n * 10 + digitValue d ≤ valueFrom n (d :: ds) := ih _
    omega

theorem digitsFrom_of_lt (hds : ∀ d ∈ ds, d.isDigit = true) (hc : c.isDigit = false)
    (h : valueFrom n ds < wholeLimit) :
    digitsFrom n count (ds ++ c :: tail) = (valueFrom n ds, count + ds.length, c :: tail) := by
  induction ds generalizing n count with
  | nil => simp [digitsFrom, hc, valueFrom]
  | cons d ds ih =>
    obtain ⟨hd, hds⟩ := List.forall_mem_cons.mp hds
    have hnext : n * 10 + digitValue d < wholeLimit := Nat.lt_of_le_of_lt (le_valueFrom _ ds) h
    rw [List.cons_append, digitsFrom, if_pos (by simp [hd, hnext]), ih hds h, List.length_cons,
      Nat.add_assoc, Nat.add_comm 1]
    rfl

/-- Digits of a number that does not fit are not all read. -/
theorem exists_digitsFrom_of_le (hds : ∀ d ∈ ds, d.isDigit = true) (hn : n < wholeLimit)
    (h : wholeLimit ≤ valueFrom n ds) : ∃ n' count' e es,
      digitsFrom n count (ds ++ tail) = (n', count', e :: es ++ tail) ∧
        ∀ d ∈ e :: es, d.isDigit = true := by
  induction ds generalizing n count with
  | nil => exact absurd hn (Nat.not_lt.mpr h)
  | cons d ds ih =>
    obtain ⟨hd, hrest⟩ := List.forall_mem_cons.mp hds
    by_cases hnext : n * 10 + digitValue d < wholeLimit
    · rw [List.cons_append, digitsFrom, if_pos (by simp [hd, hnext])]
      exact ih hrest hnext h
    · rw [List.cons_append, digitsFrom, if_neg (by simp [hnext])]
      exact ⟨n, count, d, ds, rfl, hds⟩

theorem skipDigits_append (hds : ∀ d ∈ ds, d.isDigit = true) (hc : c.isDigit = false) :
    skipDigits (ds ++ c :: tail) = (ds.length, c :: tail) := by
  simp [skipDigits, List.takeWhile_append_of_pos hds, List.dropWhile_append_of_pos hds, hc]

/-! ### Whole numbers -/

/-- Characters that no number goes on with. -/
def EndsNumber (c : Char) : Prop := c.isDigit = false ∧ c ≠ '.' ∧ c ≠ 'e' ∧ c ≠ 'E'

instance : DecidablePred EndsNumber := fun _ => instDecidableAnd

theorem wholeEnd?_of_endsNumber (hc : EndsNumber c) :
    wholeEnd? negative n (c :: tail) = .ok (ofWhole negative n, c :: tail) := by
  obtain ⟨-, hpoint, hsmall, hcapital⟩ := hc
  unfold wholeEnd?
  split <;> simp_all

theorem exponentOrEnd?_of_endsNumber {exponent : Int} (hc : EndsNumber c) :
    exponentOrEnd? negative n exponent (c :: tail) =
      (float? negative n exponent).map (·, c :: tail) := by
  obtain ⟨-, -, hsmall, hcapital⟩ := hc
  unfold exponentOrEnd?
  split <;> simp_all

/-- Digits after each other make a whole number if they are all read, and else a floating point
number or none. -/
theorem number?_of_digitsFrom (hd : d.isDigit = true) (hzero : d ≠ '0') (hc : EndsNumber c)
    (hds : ∀ d ∈ ds, d.isDigit = true)
    (h : digitsFrom 0 0 (d :: cs) = (n, count, ds ++ c :: tail)) :
    number? negative (d :: cs) = if ds = [] then .ok (ofWhole negative n, c :: tail)
      else (float? negative n ds.length).map (·, c :: tail) := by
  have hskip : skipDigits (ds ++ c :: tail) = (ds.length, c :: tail) := skipDigits_append hds hc.1
  unfold number?
  split
  case h_1 heq => cases heq
  case h_2 heq => exact absurd (List.cons.inj heq).1 hzero
  case h_3 heq =>
    cases heq
    simp only [hd, h, hskip, Bool.not_true, Bool.false_eq_true, if_false, List.length_eq_zero_iff,
      wholeEnd?_of_endsNumber hc]
    split_ifs
    · rfl
    · split
      case h_1 heq => exact absurd (List.cons.inj heq).1 hc.2.1
      case h_2 => exact exponentOrEnd?_of_endsNumber hc

/-- What a whole number is read as, after a minus or not: if its digits fit 64 bits it is exact, and
else it has a floating point, if it is read at all. -/
def ReadsAs (negative : Bool) (m : Nat) (r : Except JsonError JsonNumber) : Prop :=
  if m < wholeLimit then r = .ok (ofWhole negative m) else ∀ n, r = .ok n → ∃ f, n = .float f

theorem readsAs_ofWhole (h : m < wholeLimit) : ReadsAs negative m (.ok (ofWhole negative m)) := by
  rw [ReadsAs, if_pos h]

theorem exists_of_float? {exponent : Int} {x : JsonNumber}
    (h : float? negative n exponent = .ok x) : ∃ f, x = .float f := by
  unfold float? at h
  split at h
  case h_1 =>
    cases h
    exact ⟨_, rfl⟩
  case h_2 => cases h

/-- **Digits.** A number as it is written is read as far as its digits go. -/
theorem exists_number?_toDigits (negative : Bool) (m : Nat) (hc : EndsNumber c) (tail : List Char) :
    ∃ r, number? negative (Nat.toDigits 10 m ++ c :: tail) = r.map (·, c :: tail) ∧
      ReadsAs negative m r := by
  rcases Nat.eq_zero_or_pos m with rfl | hm
  · refine ⟨.ok (ofWhole negative 0), ?_, readsAs_ofWhole (by decide)⟩
    have hzero : Nat.toDigits 10 0 = ['0'] := rfl
    simp [hzero, number?, hc.1, wholeEnd?_of_endsNumber hc, Except.map]
  obtain ⟨d, ds, hdigits, hd, hds⟩ := exists_toDigits m
  have hfirst : d ≠ '0' := by
    rintro rfl
    exact head?_toDigits (Nat.pos_iff_ne_zero.mp hm) (by rw [hdigits]; rfl)
  have hall : ∀ e ∈ d :: ds, e.isDigit = true := List.forall_mem_cons.mpr ⟨hd, hds⟩
  have hvalue : valueFrom 0 (d :: ds) = m := by
    rw [← hdigits]
    exact decimalValue_toDigits m
  rw [hdigits, List.cons_append]
  by_cases hlt : m < wholeLimit
  · have hread : digitsFrom 0 0 (d :: (ds ++ c :: tail)) =
        (m, 0 + (d :: ds).length, [] ++ c :: tail) := by
      rw [← List.cons_append, digitsFrom_of_lt hall hc.1 (hvalue.symm ▸ hlt), hvalue]
      rfl
    refine ⟨.ok (ofWhole negative m), ?_, readsAs_ofWhole hlt⟩
    exact number?_of_digitsFrom hd hfirst hc (by simp) hread
  · obtain ⟨n, count, e, es, hread, hes⟩ : ∃ n count e es,
        digitsFrom 0 0 (d :: ds ++ c :: tail) = (n, count, e :: es ++ c :: tail) ∧
          ∀ d ∈ e :: es, d.isDigit = true :=
      exists_digitsFrom_of_le hall (by decide) (hvalue.symm ▸ Nat.not_lt.mp hlt)
    refine ⟨float? negative n (e :: es).length, ?_, ?_⟩
    · exact (number?_of_digitsFrom hd hfirst hc hes hread).trans (if_neg (List.cons_ne_nil e es))
    · rw [ReadsAs, if_neg hlt]
      exact fun x => exists_of_float?

/-! ### Values -/

theorem value?_of_isDigit {fuel depth : Nat} (hd : d.isDigit = true) :
    value? (fuel + 1) depth (d :: cs) =
      (number? false (d :: cs)).map fun x => (.number x.1, x.2) := by
  have hne {e : Char} (he : e.isDigit = false) : d ≠ e := by
    rintro rfl
    cases hd.symm.trans he
  have hblank : isBlank d = false := by
    simp [isBlank, hne (e := ' ') rfl, hne (e := '\n') rfl, hne (e := '\t') rfl,
      hne (e := '\r') rfl]
  have hskip : skipBlanks (d :: cs) = d :: cs := List.dropWhile_cons_of_neg (by simp [hblank])
  rw [value?, hskip]
  split
  case h_9 heq =>
    cases heq
    exact if_pos hd
  case h_1 heq => cases heq
  all_goals
    rename_i heq
    exact absurd (List.cons.inj heq).1 (hne rfl)

/-- **Integers as values.** -/
theorem exists_value?_toString (m : Int) (hc : EndsNumber c) (fuel depth : Nat) (tail : List Char) :
    ∃ r, value? (fuel + 1) depth ((toString m).toList ++ c :: tail) =
        r.map (fun n => (.number n, c :: tail)) ∧ ReadsAs (m < 0) m.natAbs r := by
  obtain ⟨r, hr, hreads⟩ := exists_number?_toDigits (m < 0) m.natAbs hc tail
  refine ⟨r, ?_, hreads⟩
  have hvalue : (number? (m < 0) (Nat.toDigits 10 m.natAbs ++ c :: tail)).map
      (fun x => (Json.number x.1, x.2)) = r.map fun n => (.number n, c :: tail) := by
    rw [hr]
    cases r <;> rfl
  rw [← hvalue, toList_toString_int]
  by_cases hm : m < 0
  · simp only [hm, if_true, decide_true]
    rfl
  · obtain ⟨d, ds, hdigits, hd, -⟩ := exists_toDigits m.natAbs
    simp only [hm, if_false, decide_false, hdigits]
    exact value?_of_isDigit hd

/-! ### Names -/

/-- Characters that stand for themselves between quotes. -/
def IsPlain (c : Char) : Prop := c ≠ '"' ∧ c ≠ '\\' ∧ 32 ≤ c.toNat

theorem textFrom_of_isPlain {fuel : Nat} {before : List Char} (hcs : ∀ c ∈ cs, IsPlain c)
    (hfuel : cs.length < fuel) : textFrom fuel before (cs ++ '"' :: tail) =
      .ok (String.ofList (before.reverse ++ cs), tail) := by
  induction cs generalizing fuel before with
  | nil =>
    obtain ⟨fuel, rfl⟩ := Nat.exists_eq_add_one.mpr hfuel
    rw [List.append_nil]
    rfl
  | cons c cs ih =>
    obtain ⟨⟨hquote, hbackslash, hlow⟩, hcs⟩ := List.forall_mem_cons.mp hcs
    obtain ⟨fuel, rfl⟩ := Nat.exists_eq_add_one.mpr (Nat.zero_lt_of_lt hfuel)
    have hrest : textFrom fuel (c :: before) (cs ++ '"' :: tail) = _ :=
      ih hcs (Nat.succ_lt_succ_iff.mp hfuel)
    rw [List.cons_append, textFrom, if_neg (Nat.not_lt.mpr hlow), hrest]
    · simp
    · simpa using hquote
    · simpa using hbackslash

theorem text?_of_isPlain (hcs : ∀ c ∈ cs, IsPlain c) :
    text? (cs ++ '"' :: tail) = .ok (String.ofList cs, tail) := by
  have hfuel : cs.length < (cs ++ '"' :: tail).length + 1 := by
    rw [List.length_append]
    omega
  exact textFrom_of_isPlain hcs hfuel

end Vigil.Json
