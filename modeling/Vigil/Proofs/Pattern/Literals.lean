import Vigil.Proofs.Pattern.Pieces

/-! # Literals as expressions

An escaped text makes a plain expression that matches the text alone.

* `regex?_escaped`: its node, a row of characters between the ends of the text;
* `isMatch_regex?_escaped`: the texts that it matches;
* `isSome_regex?_escaped`: texts up to a length are not too large. -/

namespace Vigil.Pattern

variable {cased fold : Bool} {cs t : List Char}

/-! ### The node of an escaped text -/

/-- The characters of an escaped text as nodes: only those that are not special may disregard
case. -/
def letterNodes (fold : Bool) (cs : List Char) : List Node :=
  (cs.map .letter).map (Piece.node fold)

/-- An escaped text in a group; nothing is left of a group without characters. -/
def groupNodes (fold : Bool) (cs : List Char) : List Node :=
  if cs = [] then [] else [Node.inSequence (letterNodes fold cs)]

theorem inSequence_groupNodes :
    Node.inSequence (groupNodes fold cs) = Node.inSequence (letterNodes fold cs) := by
  unfold groupNodes
  split
  case isTrue hcs => rw [hcs]; rfl
  case isFalse => rfl

theorem regex?_escaped : Pattern.regex? (escaped cs) cased =
    (Node.whole (groupNodes (!cased) cs)).checked.map .plain := by
  simp only [Pattern.regex?, ofBody?, compile?, read?_escaped]
  refine (IsPlain.anchored ?_).ofExpr?
  unfold groupNodes
  split
  case isTrue => exact .nil
  case isFalse => exact .cons (isPlain_joined (isPlain_pieces _)) .nil

/-! ### What an escaped text matches -/

/-- **An escaped text as an expression** matches the text, character by character. -/
theorem isMatch_regex?_escaped {r : Pattern} (hr : Pattern.regex? (escaped cs) cased = some r) :
    r.isMatch t = true ↔ TextAgrees cased cs t := by
  rw [isMatch_whole_iff (regex?_escaped.symm.trans hr), inSequence_groupNodes, letterNodes,
    matching_pieces, fits_letters_iff]

/-! ### The size of an escaped text -/

theorem weight_letter_le (c : Char) : ((Piece.letter c).node fold).weight ≤ 340 := by
  have hsize : c.utf8Size ≤ 4 := c.utf8Size_le_four
  rw [Piece.node, Node.char, Node.weight]
  cases fold && !Reader.isSpecial c with
  | true =>
    rw [CharClass.foldedIf, if_pos rfl, CharClass.weight, CharClass.foldedWeight]
    split <;> omega
  | false =>
    rw [CharClass.foldedIf, if_neg Bool.false_ne_true, CharClass.weight]
    omega

/-- Escaped texts of up to this length are not too large as expressions. -/
def literalLimit : Nat := 30000

theorem weight_letterNodes_le :
    (Node.inSequence (letterNodes fold cs)).weight ≤ cs.length * 340 := by
  induction cs with
  | nil => exact Nat.le_refl 0
  | cons c cs ih =>
    have hc : ((Piece.letter c).node fold).weight ≤ 340 := weight_letter_le c
    rw [letterNodes, List.map_cons, List.map_cons, Node.weight_inSequence_cons, List.length_cons]
    rw [letterNodes] at ih
    omega

theorem isSome_regex?_escaped (h : cs.length ≤ literalLimit) :
    (Pattern.regex? (escaped cs) cased).isSome := by
  have hweight : (Node.inSequence (letterNodes (!cased) cs)).weight ≤ cs.length * 340 :=
    weight_letterNodes_le
  have hlimit : Node.sizeLimit = 10485760 := by decide
  rw [literalLimit] at h
  rw [regex?_escaped, Option.isSome_map, Node.isSome_checked_whole, inSequence_groupNodes,
    letterNodes, boundsOk_pieces, Bool.true_and, ← letterNodes, decide_eq_true_eq]
  omega

end Vigil.Pattern
