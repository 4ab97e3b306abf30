import Mathlib.Data.List.Basic
import Mathlib.Data.List.DropRight
import Vigil.Text.Character

/-! # Blanks

What `trim` removes from a text are blanks, and it finds nothing more to remove from what it leaves.
No blank is alphabetic or a number, as the tables of these show.

* `exists_trim_eq`: the blanks around a trimmed text;
* `trim_trim`, `trim_of_blanks_around`: trimming twice, and trimming a text without blanks;
* `isAlphanumeric_of_isBlank`: blanks among the other characters. -/

namespace Vigil.Text

open Vigil.Unicode

variable {c : Char}

/-! ### Trimming -/

theorem trim_eq_rdropWhile (cs : List Char) :
    trim cs = (cs.dropWhile isBlank).rdropWhile isBlank := rfl

/-- A text is what trimming leaves of it, between blanks. -/
theorem exists_trim_eq (cs : List Char) : ∃ u w, cs = u ++ trim cs ++ w ∧
    (∀ c ∈ u, isBlank c = true) ∧ ∀ c ∈ w, isBlank c = true := by
  refine ⟨cs.takeWhile isBlank, (cs.dropWhile isBlank).rtakeWhile isBlank, ?_, ?_, ?_⟩
  · rw [trim_eq_rdropWhile, List.append_assoc, List.rdropWhile_append_rtakeWhile,
      List.takeWhile_append_dropWhile]
  · intro c hc
    exact List.mem_takeWhile_imp hc
  · intro c hc
    exact List.mem_rtakeWhile_imp hc

theorem trim_trim (cs : List Char) : trim (trim cs) = trim cs := by
  rw [trim_eq_rdropWhile cs]
  rcases hdrop : cs.dropWhile isBlank with _ | ⟨c, rest⟩
  · rfl
  have hc : isBlank c = false := by
    have hhead := List.head?_dropWhile_not isBlank cs
    simpa [hdrop] using hhead
  have hprefix : (c :: rest).rdropWhile isBlank <+: c :: rest := List.rdropWhile_prefix _ _
  rcases List.prefix_cons_iff.mp hprefix with hnil | ⟨left, hleft, -⟩
  · have hall := List.rdropWhile_eq_nil_iff.mp hnil
    cases hc.symm.trans (hall c List.mem_cons_self)
  -- what is left begins with a character that is no blank
  · rw [trim_eq_rdropWhile, hleft, List.dropWhile_cons_of_neg (by simp [hc]), ← hleft,
      List.rdropWhile_idempotent]

/-- What trimming leaves of a text without blanks, where others stand around it. -/
theorem trim_of_blanks_around {u w cs : List Char} (hu : ∀ c ∈ u, isBlank c = true)
    (hcs : ∀ c ∈ cs, isBlank c = false) (hw : ∀ c ∈ w, isBlank c = true) :
    trim (u ++ cs ++ w) = cs := by
  have hreverse : ∀ c ∈ w.reverse, isBlank c = true := by simpa using hw
  have hself : cs.rdropWhile isBlank = cs :=
    List.rdropWhile_eq_self_iff.mpr fun hne => by simp [hcs _ (List.getLast_mem hne)]
  rw [trim_eq_rdropWhile, List.append_assoc, List.dropWhile_append_of_pos hu]
  rcases cs with _ | ⟨c, cs⟩
  · rw [List.nil_append, List.dropWhile_eq_nil_iff.mpr hw, List.rdropWhile_nil]
  · have hc : isBlank c = false := hcs c List.mem_cons_self
    rw [List.cons_append, List.dropWhile_cons_of_neg (by simp [hc]), ← List.cons_append,
      List.rdropWhile, List.reverse_append, List.dropWhile_append_of_pos hreverse]
    exact hself

/-! ### Tables -/

/-- The range that a word of a table denotes. -/
def rangeOf (item : List Char) : Nat × Nat :=
  match parts '-' item with
  | [first, last] => (hexValue first, hexValue last)
  | _ => (hexValue item, hexValue item)

/-- The table of the ranges that the words of a text denote. -/
def rangesOf (cs : List Char) : Ranges := ⟨((wordsFrom [] cs).map rangeOf).toArray⟩

theorem parse_ofList_eq_rangesOf (cs : List Char) :
    Ranges.parse (String.ofList cs) = rangesOf cs := by
  rw [Ranges.parse, words, String.toList_ofList]
  rfl

/-- The numbers of the blanks outside ASCII. -/
def blankCodes : List Nat :=
  [0x85, 0xA0, 0x1680] ++ List.range' 0x2000 11 ++ [0x2028, 0x2029, 0x202F, 0x205F, 0x3000]

theorem mem_blankCodes (h : isBlank c = true) (hc : ¬ c.toNat < 128) : c.toNat ∈ blankCodes := by
  simp only [isBlank, Bool.or_eq_true, Bool.and_eq_true, decide_eq_true_eq, beq_iff_eq] at h
  simp only [blankCodes, List.mem_append, List.mem_cons, List.mem_range'_1, List.not_mem_nil]
  omega

set_option maxRecDepth 1000000 in
theorem exists_alphabeticRanges_eq : ∃ cs, alphabeticRanges = Ranges.parse (String.ofList cs) ∧
    ∀ n ∈ blankCodes, (rangesOf cs).contains n = false := by
  unfold alphabeticRanges
  with_reducible refine ⟨_, rfl, ?_⟩
  decide +kernel

set_option maxRecDepth 1000000 in
theorem exists_numericRanges_eq : ∃ cs, numericRanges = Ranges.parse (String.ofList cs) ∧
    ∀ n ∈ blankCodes, (rangesOf cs).contains n = false := by
  unfold numericRanges
  with_reducible refine ⟨_, rfl, ?_⟩
  decide +kernel

/-- No blank is alphabetic or a number. -/
theorem isAlphanumeric_of_isBlank (h : isBlank c = true) : isAlphanumeric c = false := by
  by_cases hc : c.toNat < 128
  · have hsmall : ∀ n < 128, isBlank (Char.ofNat n) = true →
        isAlphanumeric (Char.ofNat n) = false := by decide
    simpa using hsmall c.toNat hc (by simpa using h)
  · obtain ⟨cs, hletters, hnoLetter⟩ := exists_alphabeticRanges_eq
    obtain ⟨ds, hnumbers, hnoNumber⟩ := exists_numericRanges_eq
    have hcode : c.toNat ∈ blankCodes := mem_blankCodes h hc
    rw [isAlphanumeric, isAlphabetic, isNumeric, if_neg hc, if_neg hc, hletters, hnumbers,
      parse_ofList_eq_rangesOf, parse_ofList_eq_rangesOf, hnoLetter _ hcode, hnoNumber _ hcode]
    rfl

end Vigil.Text
