import Mathlib.Data.List.Forall2
import Vigil.Proofs.Text.Folding

/-! # The case of ASCII letters

Two texts that differ in nothing but the case of ASCII letters (`Recased`) are alike to all that
disregards case.

* `equalIgnoringAsciiCase_iff`: the comparison of texts up to the case of ASCII letters;
* `Recased.lower_eq`: such texts have one lower-case form, also with a capital sigma among letters
  that have been changed;
* `SameLetter.fold_eq`: such characters fold to the same. -/

namespace Vigil.Text

variable {s t : List Char} {c d : Char}

/-- Whether two characters are the same up to the case of ASCII letters. -/
def SameLetter (c d : Char) : Prop := asciiLower c = asciiLower d

/-- Whether two texts are the same up to the case of ASCII letters. -/
abbrev Recased (s t : List Char) : Prop := List.Forall₂ SameLetter s t

theorem Recased.symm (h : Recased s t) : Recased t s := h.flip.imp fun _ _ => Eq.symm

theorem recased_iff_map : Recased s t ↔ s.map asciiLower = t.map asciiLower := by
  rw [← List.forall₂_eq_eq_eq, List.forall₂_map_left_iff, List.forall₂_map_right_iff]
  rfl

theorem equalIgnoringAsciiCase_iff {s t : String} :
    equalIgnoringAsciiCase s t = true ↔ Recased s.toList t.toList := by
  rw [equalIgnoringAsciiCase, beq_iff_eq, recased_iff_map]

theorem equalIgnoringAsciiCase_refl (s : String) : equalIgnoringAsciiCase s s = true :=
  beq_self_eq_true _

/-! ### Characters -/

/-- What the tables say of a letter of ASCII does not depend on its case. -/
theorem tables_asciiLower (c : Char) :
    (isCased (asciiLower c), isCaseIgnorable (asciiLower c), fold (asciiLower c)) =
      (isCased c, isCaseIgnorable c, fold c) :=
  apply_asciiLower (f := fun c => (isCased c, isCaseIgnorable c, fold c)) (by decide +kernel) c

theorem isCased_asciiLower (c : Char) : isCased (asciiLower c) = isCased c :=
  congrArg Prod.fst (tables_asciiLower c)

theorem isCaseIgnorable_asciiLower (c : Char) :
    isCaseIgnorable (asciiLower c) = isCaseIgnorable c :=
  congrArg (fun p => p.2.1) (tables_asciiLower c)

theorem fold_asciiLower (c : Char) : fold (asciiLower c) = fold c :=
  congrArg (fun p => p.2.2) (tables_asciiLower c)

theorem lowerChar_asciiLower (c : Char) : lowerChar (asciiLower c) = lowerChar c := by
  by_cases hc : c.toNat < 128
  · obtain ⟨hlt, hlower⟩ := asciiLower_of_small hc
    rw [lowerChar_of_small hc, lowerChar_of_small hlt, hlower]
  · rw [asciiLower_of_large hc]

/-- Characters that are the same up to the case of ASCII letters fold to the same. -/
theorem SameLetter.fold_eq (h : SameLetter c d) : fold c = fold d := by
  rw [← fold_asciiLower c, h, fold_asciiLower]

theorem SameLetter.eq_iff {x : Char} (hx : x.isAlpha = false) (h : SameLetter c d) :
    c = x ↔ d = x := by
  rw [← asciiLower_eq_iff hx, h, asciiLower_eq_iff hx]

/-! ### Texts -/

theorem Recased.mem_iff {x : Char} (hx : x.isAlpha = false) (h : Recased s t) :
    x ∈ s ↔ x ∈ t := by
  have hmap (cs : List Char) : x ∈ cs.map asciiLower ↔ x ∈ cs := by
    simp [asciiLower_eq_iff hx]
  rw [← hmap s, recased_iff_map.mp h, hmap]

theorem meetsCased_map (cs : List Char) : meetsCased (cs.map asciiLower) = meetsCased cs := by
  have hskip : isCaseIgnorable ∘ asciiLower = isCaseIgnorable := funext isCaseIgnorable_asciiLower
  unfold meetsCased
  rw [List.dropWhile_map, hskip]
  rcases cs.dropWhile isCaseIgnorable with _ | ⟨c, rest⟩
  · rfl
  · exact isCased_asciiLower c

/-- The lower-case form of a text does not change if its ASCII capitals are made small, nor if those
before it are. -/
theorem lowerAfter_map (before cs : List Char) :
    lowerAfter (before.map asciiLower) (cs.map asciiLower) = lowerAfter before cs := by
  induction cs generalizing before with
  | nil => rfl
  | cons c cs ih =>
    have hrest : lowerAfter (asciiLower c :: before.map asciiLower) (cs.map asciiLower) =
        lowerAfter (c :: before) cs := ih (c :: before)
    have hsigma : asciiLower c = 'Σ' ↔ c = 'Σ' := asciiLower_eq_iff (by decide)
    simp only [List.map_cons, lowerAfter, hsigma, meetsCased_map, lowerChar_asciiLower, hrest]

/-- **Texts that are the same up to the case of ASCII letters have one lower-case form.** -/
theorem Recased.lower_eq (h : Recased s t) : lower s = lower t := by
  have hmap (cs : List Char) : lower (cs.map asciiLower) = lower cs := lowerAfter_map [] cs
  rw [← hmap s, recased_iff_map.mp h, hmap]

end Vigil.Text
