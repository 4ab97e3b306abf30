import Mathlib.Data.List.Forall2
import Vigil.Proofs.Text.Casing

/-! # Lower case and folding

Texts can be compared in lower case as wholes, or character by character up to folding. The two
ways agree on regular texts (`IsRegularText`); those of ASCII characters are regular.

* `fold_fold`, `lower_lowerChar`: folded characters and lower-case forms stay as they are;
* `eq_of_fold_eq`: ASCII characters that are no letters fold as themselves only;
* `lower_eq_flatMap`: without a capital sigma, the lower-case form of a text is that of its
  characters;
* `lower_eq_lower_iff`: equality in lower case of regular texts;
* `exists_not_iff_of_not_isRegular`: on all other characters the two ways differ. -/

namespace Vigil.Text

open Vigil.Unicode

variable {s t cs before : List Char} {c d : Char}

/-! ### Folding -/

/-- Whether a character is a letter or outside ASCII. -/
def IsLetterOrForeign (c : Char) : Prop := c.isAlpha = true ∨ 128 ≤ c.toNat

instance : DecidablePred IsLetterOrForeign := fun _ => instDecidableOr

set_option maxRecDepth 1000000 in
theorem exists_foldPairs_eq : ∃ cs, foldPairs = Mapping.parse (String.ofList cs) ∧
    (∀ entry ∈ entriesOf cs, ∀ n ∈ entry.2, IsLetterOrForeign (Char.ofNat n)) ∧
    FixesImages (entriesOf cs) ∧ (tableOf cs).find? 'Σ'.toNat = some [0x3C3] := by
  unfold foldPairs
  with_reducible refine ⟨_, rfl, ?_⟩
  decide +kernel

theorem isLetterOrForeign_of_find? {k n : Nat} {images : List Nat}
    (h : foldPairs.find? k = some images) (hn : n ∈ images) : IsLetterOrForeign (Char.ofNat n) := by
  obtain ⟨cs, htable, himages, -⟩ := exists_foldPairs_eq
  have hmem := mem_entries_of_find? h
  rw [htable, parse_ofList, entries_tableOf] at hmem
  exact himages _ hmem n hn

theorem fixesImages_foldPairs : FixesImages foldPairs.entries.toList := by
  obtain ⟨cs, htable, -, hfixed, -⟩ := exists_foldPairs_eq
  rwa [htable, parse_ofList, entries_tableOf]

theorem fold_of_small (h : c.toNat < 128) : fold c = asciiLower c := if_pos h

theorem fold_of_isFixed (h : IsFixed foldPairs.entries.toList c) : fold c = c := by
  by_cases hc : c.toNat < 128
  · rw [IsFixed, if_pos hc] at h
    rw [fold_of_small hc, h]
  · rw [fold, if_neg hc, h.find?_eq_none hc]

/-- What characters fold to folds to itself. -/
theorem fold_fold : fold (fold c) = fold c := by
  by_cases hc : c.toNat < 128
  · obtain ⟨hsmall, hlower⟩ := asciiLower_of_small hc
    rw [fold_of_small hc, fold_of_small hsmall, hlower]
  · have hfold : fold c = c ∨ IsFixed foldPairs.entries.toList (fold c) := by
      rw [fold, if_neg hc]
      split
      case h_1 n images hfind =>
        exact Or.inr (fixesImages_foldPairs.isFixed hfind (by simp))
      case h_2 => exact Or.inl rfl
    rcases hfold with hfold | hfold
    · rw [hfold, hfold]
    · exact fold_of_isFixed hfold

/-- Outside ASCII no character folds to one of ASCII that is no letter. -/
theorem isLetterOrForeign_fold (h : ¬ c.toNat < 128) : IsLetterOrForeign (fold c) := by
  rw [fold, if_neg h]
  split
  case h_1 n images hfind => exact isLetterOrForeign_of_find? hfind List.mem_cons_self
  case h_2 => exact Or.inr (Nat.le_of_not_lt h)

/-- A character of ASCII that is no letter folds as itself only. -/
theorem eq_of_fold_eq (hc : c.toNat < 128) (hletter : c.isAlpha = false) (h : fold c = fold d) :
    c = d := by
  have hself : fold c = c := by rw [fold_of_small hc, asciiLower_of_not_isAlpha hletter]
  by_cases hd : d.toNat < 128
  · rw [hself, fold_of_small hd] at h
    exact ((asciiLower_eq_iff hletter).mp h.symm).symm
  · have hforeign := isLetterOrForeign_fold hd
    rw [← h, hself] at hforeign
    rcases hforeign with halpha | hlarge
    · cases hletter.symm.trans halpha
    · omega

theorem fold_sigma : fold 'Σ' = 'σ' := by
  obtain ⟨cs, htable, -, -, hfind⟩ := exists_foldPairs_eq
  rw [← parse_ofList, ← htable] at hfind
  rw [fold, if_neg (by decide), hfind]

/-! ### Regular characters -/

/-- Characters whose lower-case form is one character, that also of the character they fold to and
folding to the same. -/
def IsRegular (c : Char) : Prop :=
  ∃ d, lowerChar c = [d] ∧ lowerChar (fold c) = [d] ∧ fold d = fold c

/-- Texts of regular characters of which none depends on its neighbours for its lower-case form, as
a capital sigma does at the end of a word. -/
def IsRegularText (cs : List Char) : Prop :=
  lower cs = cs.flatMap lowerChar ∧ ∀ c ∈ cs, IsRegular c

theorem IsRegular.lowerChar_eq_iff (hc : IsRegular c) (hd : IsRegular d) :
    lowerChar c = lowerChar d ↔ fold c = fold d := by
  obtain ⟨x, hx, hfoldx, hx'⟩ := hc
  obtain ⟨y, hy, hfoldy, hy'⟩ := hd
  constructor
  · intro h
    obtain rfl : x = y := by simpa [hx, hy] using h
    rw [← hx', hy']
  · intro h
    rw [hx, hy, ← hfoldx, ← hfoldy, h]

theorem isRegular_of_ascii (hc : c.toNat < 128) : IsRegular c := by
  obtain ⟨hsmall, hlower⟩ := asciiLower_of_small hc
  refine ⟨asciiLower c, lowerChar_of_small hc, ?_, ?_⟩
  · rw [fold_of_small hc, lowerChar_of_small hsmall, hlower]
  · rw [fold_of_small hc, fold_of_small hsmall, hlower]

theorem isRegular_sigma : IsRegular 'Σ' := by
  have hsmall : lowerChar 'σ' = ['σ'] :=
    lowerChar_of_mem_lowerChar (lowerChar_sigma ▸ List.mem_singleton_self 'σ')
  refine ⟨'σ', lowerChar_sigma, ?_, ?_⟩
  · rw [fold_sigma, hsmall]
  · rw [← fold_sigma, fold_fold]

/-! ### Texts -/

theorem lowerAfter_eq_flatMap (h : 'Σ' ∉ cs) : lowerAfter before cs = cs.flatMap lowerChar := by
  induction cs generalizing before with
  | nil => rfl
  | cons c cs ih =>
    have hc : c ≠ 'Σ' := fun hc => h (hc ▸ List.mem_cons_self)
    rw [lowerAfter, if_neg hc, ih fun hcs => h (List.mem_cons_of_mem c hcs), List.flatMap_cons]

theorem lower_eq_flatMap (h : 'Σ' ∉ cs) : lower cs = cs.flatMap lowerChar :=
  lowerAfter_eq_flatMap h

theorem lower_singleton (h : c ≠ 'Σ') : lower [c] = lowerChar c := by
  rw [lower_eq_flatMap (by simpa using h.symm)]
  simp

theorem sigma_not_mem_lowerChar : 'Σ' ∉ lowerChar c := by
  intro h
  cases lowerChar_sigma.symm.trans (lowerChar_of_mem_lowerChar h)

/-- The lower-case form of a character is in lower case. -/
theorem lower_lowerChar : lower (lowerChar c) = lowerChar c := by
  have hown : ∀ d ∈ lowerChar c, lowerChar d = [d] := fun d => lowerChar_of_mem_lowerChar
  rw [lower_eq_flatMap sigma_not_mem_lowerChar, List.flatMap_congr hown, List.flatMap_singleton']

theorem isRegularText_of_ascii (h : ∀ c ∈ cs, c.toNat < 128) : IsRegularText cs := by
  have hsigma : 'Σ' ∉ cs := fun hmem => absurd (h _ hmem) (by decide)
  exact ⟨lower_eq_flatMap hsigma, fun c hc => isRegular_of_ascii (h c hc)⟩

theorem flatMap_lowerChar_eq_iff (hs : ∀ c ∈ s, IsRegular c) (ht : ∀ c ∈ t, IsRegular c) :
    s.flatMap lowerChar = t.flatMap lowerChar ↔
      List.Forall₂ (fun c d => fold c = fold d) s t := by
  induction s generalizing t with
  | nil =>
    rw [List.forall₂_nil_left_iff]
    rcases t with _ | ⟨d, t⟩
    · simp
    · obtain ⟨y, hy, -⟩ := ht d List.mem_cons_self
      simp [hy]
  | cons c s ih =>
    obtain ⟨x, hx, -⟩ := hs c List.mem_cons_self
    rcases t with _ | ⟨d, t⟩
    · simp [hx]
    · obtain ⟨y, hy, -⟩ := ht d List.mem_cons_self
      have hcd : x = y ↔ fold c = fold d := by
        rw [← (hs c List.mem_cons_self).lowerChar_eq_iff (ht d List.mem_cons_self), hx, hy]
        simp
      rw [List.forall₂_cons, ← ih (fun e he => hs e (List.mem_cons_of_mem c he))
        fun e he => ht e (List.mem_cons_of_mem d he)]
      simp [hx, hy, hcd]

/-- **Lower case and folding.** Regular texts are equal in lower case if and only if their
characters fold to the same, one by one. -/
theorem lower_eq_lower_iff (hs : IsRegularText s) (ht : IsRegularText t) :
    lower s = lower t ↔ List.Forall₂ (fun c d => fold c = fold d) s t := by
  rw [hs.1, ht.1]
  exact flatMap_lowerChar_eq_iff hs.2 ht.2

/-- From some text a character that is not regular is told apart in one of the two ways only. -/
theorem exists_not_iff_of_not_isRegular (hc : ¬ IsRegular c) :
    ∃ t, ¬ (lower [c] = lower t ↔ List.Forall₂ (fun c d => fold c = fold d) [c] t) := by
  have hsigma : c ≠ 'Σ' := by
    rintro rfl
    exact hc isRegular_sigma
  have hlower : lower [c] = lowerChar c := lower_singleton hsigma
  by_cases hform : ∃ d, lowerChar c = [d]
  · obtain ⟨d, hd⟩ := hform
    by_cases hfold : fold c = fold d
    · -- the character that it folds to has another lower-case form
      have hother : lowerChar (fold c) ≠ lowerChar c := fun h =>
        hc ⟨d, hd, h.trans hd, hfold.symm⟩
      have hfolded : lower [fold c] = lowerChar (fold c) := by
        refine lower_singleton fun h => ?_
        have hsmall : fold (fold c) = 'σ' := by rw [h, fold_sigma]
        rw [fold_fold, h] at hsmall
        exact absurd hsmall (by decide)
      refine ⟨[fold c], fun h => hother ?_⟩
      rw [← hfolded, ← h.mpr (by simp [fold_fold]), hlower]
    · refine ⟨[d], fun h => hfold ?_⟩
      have hsame : lower [c] = lower [d] := by rw [hlower, ← hd, lower_lowerChar]
      simpa using h.mp hsame
  · refine ⟨lowerChar c, fun h => hform ?_⟩
    obtain ⟨d, t, -, hnil, hd⟩ := List.forall₂_cons_left_iff.mp
      (h.mp (hlower.trans lower_lowerChar.symm))
    exact ⟨d, by rw [hd, List.forall₂_nil_left_iff.mp hnil]⟩

end Vigil.Text
