import Mathlib.Data.List.Forall2
import Vigil.Proofs.Pattern.Wildcard
import Vigil.Proofs.Results
import Vigil.Proofs.Text.Recasing

/-! # Patterns up to the case of ASCII letters

Wildcards, prefixes and the like are written as pieces. Without regard to case, pieces that differ only in
the case of ASCII letters (`Piece.Recased`) are of one size, and stand for texts that differ only in this
way.

* `Fits.recased`: what such pieces stand for;
* `Piece.Recased.weight_eq`: their size;
* `written_recased`: either both or neither are accepted as patterns;
* `wildcard?_recased`: wildcards. -/

namespace Vigil.Pattern

open Vigil.Text

/-- Whether two patterns match the same texts up to the case of ASCII letters. -/
def Recased (p q : Pattern) : Prop :=
  ∀ s t, Text.Recased s t → p.isMatch s = q.isMatch t

/-! ### Pieces -/

/-- Whether two pieces are the same up to the case of ASCII letters. -/
inductive Piece.Recased : Piece → Piece → Prop
  | letter {c d : Char} (h : SameLetter c d) : Recased (.letter c) (.letter d)
  | anything : Recased .anything .anything

variable {ps qs : List Piece} {s t : List Char} {c d : Char}

theorem Piece.Recased.symm {p q : Piece} : p.Recased q → q.Recased p
  | .letter h => .letter (Eq.symm h)
  | .anything => .anything

theorem recased_letters (h : Text.Recased s t) :
    List.Forall₂ Piece.Recased (s.map .letter) (t.map .letter) := by
  rw [List.forall₂_map_left_iff, List.forall₂_map_right_iff]
  exact h.imp fun _ _ => .letter

theorem recased_piecesOf (h : Text.Recased s t) :
    List.Forall₂ Piece.Recased (piecesOf s) (piecesOf t) := by
  unfold piecesOf
  rw [List.forall₂_map_left_iff, List.forall₂_map_right_iff]
  refine h.imp fun c d hcd => ?_
  -- a star is no letter, so the two texts have their stars at the same places
  have hstar : c = '*' ↔ d = '*' := hcd.eq_iff (by decide)
  simp only [hstar]
  split
  · exact .anything
  · exact .letter hcd

/-- **Pieces that are the same up to the case of ASCII letters** stand for the same texts, up to the case
of ASCII letters. -/
theorem Fits.recased (h : Fits (Agrees false) ps s) (hst : Text.Recased s t)
    (hpq : List.Forall₂ Piece.Recased ps qs) : Fits (Agrees false) qs t := by
  induction h generalizing t qs with
  | nil =>
    cases hst
    cases hpq
    exact .nil
  | letter hd _ ih =>
    obtain ⟨y, u, hxy, hu, rfl⟩ := List.forall₂_cons_left_iff.mp hst
    obtain ⟨_, rs, ⟨hcc⟩, hrs, rfl⟩ := List.forall₂_cons_left_iff.mp hpq
    have hfold : Agrees false _ y := hcc.fold_eq.symm.trans (Eq.trans hd hxy.fold_eq)
    exact .letter hfold (ih hu hrs)
  | anything w _ ih =>
    -- the other text is cut at the same place, so its parts are recased as well
    obtain ⟨_, rs, ⟨⟩, hrs, rfl⟩ := List.forall₂_cons_left_iff.mp hpq
    rw [← List.take_append_drop w.length t]
    exact .anything _ (ih (Text.Recased.symm (List.forall₂_drop_append t w _ hst.symm)) hrs)

/-! ### Patterns -/

/-- The size of a letter does not depend on its case. -/
theorem weight_letter_asciiLower (c : Char) :
    ((Piece.letter (asciiLower c)).node true).weight = ((Piece.letter c).node true).weight :=
  apply_asciiLower (f := fun c => ((Piece.letter c).node true).weight) (by decide +kernel) c

theorem Piece.Recased.weight_eq {p q : Piece} :
    p.Recased q → (p.node true).weight = (q.node true).weight
  | .letter h => by rw [← weight_letter_asciiLower, h, weight_letter_asciiLower]
  | .anything => rfl

theorem weight_pieces_eq (h : List.Forall₂ Piece.Recased ps qs) :
    (Node.inSequence (ps.map (Piece.node true))).weight =
      (Node.inSequence (qs.map (Piece.node true))).weight := by
  induction h with
  | nil => rfl
  | cons hp _ ih =>
    simp only [List.map_cons, Node.weight_inSequence_cons, hp.weight_eq, ih]

/-- Such pieces make patterns that match the same, or are both too large. -/
theorem written_recased (h : List.Forall₂ Piece.Recased ps qs) :
    Option.Rel Recased (ofBody? (written ps) false) (ofBody? (written qs) false) := by
  apply rel_of_isSome_eq
  · rw [isSome_written, isSome_written, Bool.not_false, weight_pieces_eq h]
  · intro p q hp hq s t hst
    rw [Bool.eq_iff_iff, isMatch_written_iff hp, isMatch_written_iff hq]
    constructor
    · intro hs
      exact hs.recased hst h
    · intro ht
      exact ht.recased hst.symm (h.flip.imp fun _ _ => Piece.Recased.symm)

theorem ofText_recased (h : Text.Recased s t) : (ofText s false).Recased (ofText t false) := by
  intro u v huv
  rw [Bool.eq_iff_iff, isMatch_ofText, isMatch_ofText, h.lower_eq, huv.lower_eq]

theorem wildcard?_recased (h : Text.Recased s t) :
    Option.Rel Recased (wildcard? s false) (wildcard? t false) := by
  have hstar : '*' ∈ s ↔ '*' ∈ t := h.mem_iff (by decide)
  by_cases hs : '*' ∈ s
  · rw [wildcard?_of_star hs, wildcard?_of_star (hstar.mp hs)]
    exact written_recased (recased_piecesOf h)
  · rw [wildcard?_of_no_star hs, wildcard?_of_no_star (mt hstar.mpr hs)]
    exact .some (ofText_recased h)

end Vigil.Pattern
