import Mathlib.Data.List.Forall2
import Vigil.Proofs.Pattern.Escaping
import Vigil.Proofs.Pattern.Places
import Vigil.Proofs.Text.Folding

/-! # What pieces match

A pattern that is written as pieces matches the texts that the pieces stand for, one after the other
(`Fits`): a letter stands for a character that agrees with it (`Agrees`), and the expression for any text
stands for any text. A pattern like this looks at nothing but the next character, so its search never gives
up.

* `eq_of_fold_eq_special`: why special characters, which are read with regard to case, need no exception;
* `isMatch_whole_iff`, `givesUp_whole`: an expression between the ends of a text has to match all of it;
* `IsPlain.anchored`: expressions without groups, one after the other, as nodes;
* `matching_pieces`: what the nodes of pieces match;
* `isSome_written`, `isMatch_written_iff`, `givesUp_written`: patterns written as pieces. -/

namespace Vigil

open Vigil.Text Vigil.Pattern

/-! ### Characters that agree -/

/-- Whether a character of a pattern stands for one of a text: for itself, and for all that fold to
the same where case does not count. -/
def Agrees (cased : Bool) (c d : Char) : Prop := if cased then c = d else fold c = fold d

/-- Whether a part of a pattern stands for a text, character by character. -/
abbrev TextAgrees (cased : Bool) (s t : List Char) : Prop := List.Forall₂ (Agrees cased) s t

theorem agrees_true : Agrees true = Eq := by
  funext c d
  simp [Agrees]

theorem contains_foldedIf_char {cased : Bool} {c d : Char} :
    (CharClass.foldedIf (!cased) (.char c)).contains d ↔ Agrees cased c d := by
  cases cased <;> simp [CharClass.foldedIf, CharClass.contains, Agrees, equalFolded]

theorem ascii_of_isSpecial {c : Char} (h : Reader.isSpecial c = true) :
    c.toNat < 128 ∧ c.isAlpha = false := by
  have hall :
      ("\\.+*?()|[]\x7b\x7d^$#".toList.all fun c => c.toNat < 128 && !c.isAlpha) = true := by
    decide
  simpa using List.all_eq_true.mp hall c (by simpa [Reader.isSpecial] using h)

/-- No other character folds to the same as a special one. -/
theorem eq_of_fold_eq_special {c d : Char} (hc : Reader.isSpecial c = true)
    (h : fold c = fold d) : c = d :=
  have ⟨hsmall, hletter⟩ := ascii_of_isSpecial hc
  eq_of_fold_eq hsmall hletter h

/-- It makes no difference that special characters are read with regard to case. -/
theorem agrees_or_isSpecial {cased : Bool} {c d : Char} :
    Agrees (cased || Reader.isSpecial c) c d ↔ Agrees cased c d := by
  by_cases hc : Reader.isSpecial c = true
  · cases cased with
    | true => exact Iff.rfl
    | false =>
      rw [hc]
      constructor
      · rintro rfl
        rfl
      · exact eq_of_fold_eq_special hc
  · rw [Bool.not_eq_true] at hc
    rw [hc, Bool.or_false]

namespace Pattern

/-! ### Nodes in a row -/

namespace Node

open Matching

variable {before w after : List Char} {n : Node} {ns ms : List Node}

theorem matching_inSequence_cons : (inSequence (n :: ns)).matching before w after ↔
    (n.matching.followedBy (inSequence ns).matching) before w after := by
  rcases ns with _ | ⟨m, ns⟩
  · simp [inSequence, matching, followedBy, nothing]
  · rfl

theorem matching_inSequence_append : (inSequence (ns ++ ms)).matching before w after ↔
    ((inSequence ns).matching.followedBy (inSequence ms).matching) before w after := by
  induction ns generalizing before w with
  | nil =>
    constructor
    · intro h
      exact ⟨[], w, rfl, rfl, by simpa using h⟩
    · rintro ⟨_, v, rfl, rfl, h⟩
      simpa using h
  | cons n ns ih =>
    rw [List.cons_append, matching_inSequence_cons]
    constructor
    · rintro ⟨u, _, rfl, hu, h⟩
      obtain ⟨v, x, rfl, hv, hx⟩ := ih.mp h
      exact ⟨u ++ v, x, by simp, matching_inSequence_cons.mpr ⟨u, v, rfl, by simpa using hu, hv⟩,
        by simpa using hx⟩
    · rintro ⟨_, x, rfl, h, hx⟩
      obtain ⟨u, v, rfl, hu, hv⟩ := matching_inSequence_cons.mp h
      exact ⟨u, v ++ x, by simp, by simpa using hu, ih.mpr ⟨v, x, rfl, hv, by simpa using hx⟩⟩

theorem repeated_set {s : CharClass} {k : Nat} :
    (Node.set s).matching.repeated k before w after ↔ w.length = k ∧ ∀ c ∈ w, s.contains c := by
  induction k generalizing before w with
  | zero =>
    constructor
    · rintro rfl
      simp
    · rintro ⟨h, -⟩
      exact List.length_eq_zero_iff.mp h
  | succ k ih =>
    constructor
    · rintro ⟨_, v, rfl, ⟨c, rfl, hc⟩, h⟩
      obtain ⟨rfl, hv⟩ := ih.mp h
      exact ⟨by simp, by simpa using ⟨hc, hv⟩⟩
    · rintro ⟨hlen, h⟩
      obtain ⟨c, v, rfl⟩ := List.exists_cons_of_length_eq_add_one hlen
      rw [List.forall_mem_cons] at h
      exact ⟨[c], v, rfl, ⟨c, rfl, h.1⟩, ih.mpr ⟨by simpa using hlen, h.2⟩⟩

/-- Characters of a class, as many as there are. -/
theorem matching_many {s : CharClass} {least : Nat} {greedy : Bool} :
    (repetition (.set s) least none greedy).matching before w after ↔
      least ≤ w.length ∧ ∀ c ∈ w, s.contains c := by
  constructor
  · rintro ⟨k, ⟨hk, -⟩, h⟩
    obtain ⟨rfl, hw⟩ := repeated_set.mp h
    exact ⟨hk, hw⟩
  · rintro ⟨hk, hw⟩
    exact ⟨w.length, ⟨hk, by simp⟩, repeated_set.mpr ⟨rfl, hw⟩⟩

theorem contains_everything {c : Char} : CharClass.everything.contains c = true := rfl

/-- Any text. -/
def gap : Node := .repetition (.set .everything) 0 none true

theorem matching_gap : gap.matching before w after :=
  matching_many.mpr ⟨Nat.zero_le _, fun _ _ => contains_everything⟩

/-- Nodes in a row between the ends of the text. -/
def whole (ns : List Node) : Node :=
  inSequence (.assertion .textStart :: (ns ++ [.assertion .textEnd]))

theorem matching_whole : (whole ns).matching before w after ↔
    before = [] ∧ after = [] ∧ (inSequence ns).matching [] w [] := by
  rw [whole, matching_inSequence_cons]
  constructor
  · rintro ⟨_, _, rfl, ⟨rfl, hstart⟩, h⟩
    obtain ⟨v, _, rfl, hv, rfl, hend⟩ := matching_inSequence_append.mp h
    obtain rfl : before = [] := by simpa [Assertion.holds] using hstart
    obtain rfl : after = [] := by simpa [Assertion.holds] using hend
    exact ⟨rfl, rfl, by simpa using hv⟩
  · rintro ⟨rfl, rfl, h⟩
    refine ⟨[], w, rfl, ⟨rfl, rfl⟩, matching_inSequence_append.mpr ?_⟩
    exact ⟨w, [], by simp, by simpa using h, rfl, rfl⟩

theorem occursIn_whole {t : List Char} :
    (whole ns).occursIn t = true ↔ (inSequence ns).matching [] t [] := by
  rw [occursIn_iff]
  constructor
  · rintro ⟨before, w, after, rfl, h⟩
    obtain ⟨rfl, rfl, hw⟩ := matching_whole.mp h
    simpa using hw
  · intro h
    exact ⟨[], t, [], by simp, matching_whole.mpr ⟨rfl, rfl, h⟩⟩

/-! ### The size of nodes in a row -/

theorem weight_inSequence_cons :
    (inSequence (n :: ns)).weight = n.weight + (inSequence ns).weight := by
  rcases ns with _ | ⟨m, ns⟩
  · simp [inSequence, weight]
  · rfl

theorem boundsOk_inSequence_cons :
    (inSequence (n :: ns)).boundsOk = (n.boundsOk && (inSequence ns).boundsOk) := by
  rcases ns with _ | ⟨m, ns⟩
  · simp [inSequence, boundsOk]
  · rfl

theorem weight_inSequence_append :
    (inSequence (ns ++ ms)).weight = (inSequence ns).weight + (inSequence ms).weight := by
  induction ns with
  | nil => simp [inSequence, weight]
  | cons n ns ih =>
    rw [List.cons_append, weight_inSequence_cons, ih, weight_inSequence_cons, Nat.add_assoc]

theorem boundsOk_inSequence_append :
    (inSequence (ns ++ ms)).boundsOk = ((inSequence ns).boundsOk && (inSequence ms).boundsOk) := by
  induction ns with
  | nil => simp [inSequence, boundsOk]
  | cons n ns ih =>
    rw [List.cons_append, boundsOk_inSequence_cons, ih, boundsOk_inSequence_cons, Bool.and_assoc]

/-- The ends of the text count for the size. -/
theorem isSome_checked_whole : (whole ns).checked.isSome =
    ((inSequence ns).boundsOk && decide ((inSequence ns).weight + 64 ≤ sizeLimit)) := by
  have hbounds : (whole ns).boundsOk = (inSequence ns).boundsOk := by
    rw [whole, boundsOk_inSequence_cons, boundsOk_inSequence_append]
    simp [inSequence, boundsOk]
  have hweight : (whole ns).weight = (inSequence ns).weight + 64 := by
    rw [whole, weight_inSequence_cons, weight_inSequence_append]
    simp [inSequence, weight]
    omega
  rw [checked, hbounds, hweight]
  split <;> simp_all

end Node

/-! ### Patterns of nodes between the ends -/

variable {ns : List Node} {q : Pattern} {t : List Char}

theorem eq_of_checked {m n : Node} (h : n.checked = some m) : m = n := by
  unfold Node.checked at h
  split at h
  · exact (Option.some.inj h).symm
  · cases h

theorem compare_whole (hq : (Node.whole ns).checked.map .plain = some q) :
    q.compare t = if (Node.whole ns).occursIn t then .found else .absent := by
  obtain ⟨n, hn, rfl⟩ := Option.map_eq_some_iff.mp hq
  obtain rfl := eq_of_checked hn
  rfl

theorem isMatch_whole_iff (hq : (Node.whole ns).checked.map .plain = some q) :
    q.isMatch t = true ↔ (Node.inSequence ns).matching [] t [] := by
  rw [← Node.occursIn_whole, isMatch, compare_whole hq]
  split <;> simp_all

theorem givesUp_whole (hq : (Node.whole ns).checked.map .plain = some q) :
    q.givesUp t = false := by
  rw [givesUp, compare_whole hq]
  split <;> rfl

/-! ### Expressions without groups -/

open Vigil.Pattern.Reader (joined anchored)

/-- Whether an expression without groups has a node, whatever stands before it. -/
structure IsPlain (e : Expr) (n : Node) : Prop where
  groups_eq : e.groups = 0
  ofExpr?_eq (first : Nat) : Node.ofExpr? first e = some n
  isHard_eq (first : Nat) : e.isHard [] first = false
  referencesOpened_eq (first : Nat) : e.referencesOpened first = true

variable {e : Expr} {es : List Expr} {n : Node} {fold : Bool}

theorem IsPlain.ofExpr? (h : IsPlain e n) : Pattern.ofExpr? e [] = n.checked.map .plain := by
  simp [Pattern.ofExpr?, h.ofExpr?_eq, h.isHard_eq, h.referencesOpened_eq]

theorem isPlain_assertion {a : Assertion} (h : a.isHard = false) :
    IsPlain (.assertion a) (.assertion a) where
  groups_eq := by simp [Expr.groups]
  ofExpr?_eq _ := by simp [Node.ofExpr?, h]
  isHard_eq _ := by simp [Expr.isHard, h]
  referencesOpened_eq _ := by simp [Expr.referencesOpened]

theorem isPlain_literal {c : Char} {folded : Bool} :
    IsPlain (.literal c folded) (.char c folded) :=
  ⟨by simp [Expr.groups], fun _ => by simp [Node.ofExpr?], fun _ => by simp [Expr.isHard],
    fun _ => by simp [Expr.referencesOpened]⟩

theorem isPlain_set {s : CharClass} : IsPlain (.set s) (.set s) :=
  ⟨by simp [Expr.groups], fun _ => by simp [Node.ofExpr?], fun _ => by simp [Expr.isHard],
    fun _ => by simp [Expr.referencesOpened]⟩

theorem isPlain_any : IsPlain (.any true) (.set .everything) :=
  ⟨by simp [Expr.groups], fun _ => by simp [Node.ofExpr?], fun _ => by simp [Expr.isHard],
    fun _ => by simp [Expr.referencesOpened]⟩

theorem IsPlain.repetition {least : Nat} {most : Option Nat} {greedy : Bool} (h : IsPlain e n) :
    IsPlain (.repetition e least most greedy) (.repetition n least most greedy) where
  groups_eq := by simp [Expr.groups, h.groups_eq]
  ofExpr?_eq first := by simp [Node.ofExpr?, h.ofExpr?_eq]
  isHard_eq first := by simp [Expr.isHard, h.isHard_eq]
  referencesOpened_eq first := by simp [Expr.referencesOpened, h.referencesOpened_eq]

theorem isPlain_sequence (h : List.Forall₂ IsPlain es ns) :
    IsPlain (.sequence es) (Node.inSequence ns) := by
  suffices hall : (Expr.sequence es).groups = 0 ∧ ∀ first,
      Node.ofExprs? first es = some ns ∧ Expr.anyHard [] first es = false ∧
        Expr.allReferencesOpened first es = true by
    obtain ⟨hgroups, hall⟩ := hall
    exact ⟨hgroups, fun first => by simp [Node.ofExpr?, (hall first).1],
      fun first => by simp [Expr.isHard, (hall first).2.1],
      fun first => by simp [Expr.referencesOpened, (hall first).2.2]⟩
  induction h with
  | nil => exact ⟨rfl, fun _ => ⟨rfl, rfl, rfl⟩⟩
  | cons he _ ih =>
    obtain ⟨hgroups, ih⟩ := ih
    refine ⟨?_, fun first => ?_⟩
    · simpa [Expr.groups, Expr.groupsAll, he.groups_eq] using hgroups
    · obtain ⟨hnodes, hhard, hreferences⟩ := ih first
      simp [Node.ofExprs?, Expr.anyHard, Expr.allReferencesOpened, he.groups_eq, he.ofExpr?_eq,
        he.isHard_eq, he.referencesOpened_eq, hnodes, hhard, hreferences]

theorem isPlain_joined (h : List.Forall₂ IsPlain es ns) :
    IsPlain (joined es) (Node.inSequence ns) := by
  cases h with
  | nil => exact ⟨rfl, fun _ => rfl, fun _ => rfl, fun _ => rfl⟩
  | cons he hes =>
    cases hes with
    | nil => exact he
    | cons he' hes => exact isPlain_sequence (.cons he (.cons he' hes))

theorem IsPlain.anchored (h : List.Forall₂ IsPlain es ns) :
    IsPlain (anchored es) (Node.whole ns) :=
  isPlain_joined (.cons (isPlain_assertion rfl)
    (List.rel_append h (.cons (isPlain_assertion rfl) .nil)))

/-! ### Pieces -/

/-- The node of a piece. Only characters that are not special may disregard case. -/
def Piece.node (fold : Bool) : Piece → Node
  | .letter c => .char c (fold && !Reader.isSpecial c)
  | .anything => .gap

theorem isPlain_piece (p : Piece) : IsPlain (p.expr fold) (p.node fold) := by
  cases p with
  | letter c => exact isPlain_literal
  | anything => exact isPlain_any.repetition

theorem isPlain_pieces (ps : List Piece) :
    List.Forall₂ IsPlain (ps.map (Piece.expr fold)) (ps.map (Piece.node fold)) := by
  induction ps with
  | nil => exact .nil
  | cons p ps ih => exact .cons (isPlain_piece p) ih

/-- **What pieces stand for.** A letter stands for a character that is the `same`. -/
inductive Fits (same : Char → Char → Prop) : List Piece → List Char → Prop
  | nil : Fits same [] []
  | letter {c d ps t} (hd : same c d) (h : Fits same ps t) : Fits same (.letter c :: ps) (d :: t)
  | anything {ps t} (w : List Char) (h : Fits same ps t) : Fits same (.anything :: ps) (w ++ t)

section Fits

variable {same : Char → Char → Prop} {ps : List Piece} {c : Char} {cs : List Char}

theorem fits_nil_iff : Fits same [] t ↔ t = [] := by
  constructor
  · rintro ⟨⟩
    rfl
  · rintro rfl
    exact .nil

theorem fits_letter_iff :
    Fits same (.letter c :: ps) t ↔ ∃ d u, t = d :: u ∧ same c d ∧ Fits same ps u := by
  constructor
  · rintro (_ | ⟨hd, h⟩)
    exact ⟨_, _, rfl, hd, h⟩
  · rintro ⟨d, u, rfl, hd, h⟩
    exact .letter hd h

theorem fits_anything_iff :
    Fits same (.anything :: ps) t ↔ ∃ w u, t = w ++ u ∧ Fits same ps u := by
  constructor
  · rintro (_ | _ | ⟨w, h⟩)
    exact ⟨w, _, rfl, h⟩
  · rintro ⟨w, u, rfl, h⟩
    exact .anything w h

theorem fits_letters_append_iff : Fits same (cs.map .letter ++ ps) t ↔
    ∃ u v, t = u ++ v ∧ List.Forall₂ same cs u ∧ Fits same ps v := by
  induction cs generalizing t with
  | nil =>
    constructor
    · intro h
      exact ⟨[], t, rfl, .nil, h⟩
    · rintro ⟨_, v, rfl, _ | _, h⟩
      exact h
  | cons c cs ih =>
    rw [List.map_cons, List.cons_append, fits_letter_iff]
    constructor
    · rintro ⟨d, _, rfl, hd, h⟩
      obtain ⟨u, v, rfl, hu, hv⟩ := ih.mp h
      exact ⟨d :: u, v, rfl, .cons hd hu, hv⟩
    · rintro ⟨_, v, rfl, _ | ⟨hd, hu⟩, hv⟩
      exact ⟨_, _, rfl, hd, ih.mpr ⟨_, v, rfl, hu, hv⟩⟩

theorem fits_letters_iff : Fits same (cs.map .letter) t ↔ List.Forall₂ same cs t := by
  rw [← List.append_nil (cs.map _), fits_letters_append_iff]
  simp only [fits_nil_iff]
  constructor
  · rintro ⟨u, _, rfl, hu, rfl⟩
    rwa [List.append_nil]
  · intro h
    exact ⟨t, [], (List.append_nil t).symm, h, rfl⟩

end Fits

variable {cased : Bool} {ps : List Piece} {before after : List Char}

/-- The nodes of pieces match what the pieces stand for. -/
theorem matching_pieces :
    (Node.inSequence (ps.map (Piece.node (!cased)))).matching before t after ↔
      Fits (Agrees cased) ps t := by
  induction ps generalizing before t with
  | nil => exact fits_nil_iff.symm
  | cons p ps ih =>
    rw [List.map_cons, Node.matching_inSequence_cons]
    cases p with
    | letter c =>
      have hletter {d : Char} :
          (CharClass.foldedIf (!cased && !Reader.isSpecial c) (.char c)).contains d ↔
            Agrees cased c d := by
        rw [← Bool.not_or, contains_foldedIf_char, agrees_or_isSpecial]
      rw [fits_letter_iff]
      constructor
      · rintro ⟨_, v, rfl, ⟨d, rfl, hd⟩, hv⟩
        exact ⟨d, v, rfl, hletter.mp hd, ih.mp hv⟩
      · rintro ⟨d, v, rfl, hd, hv⟩
        exact ⟨[d], v, rfl, ⟨d, rfl, hletter.mpr hd⟩, ih.mpr hv⟩
    | anything =>
      rw [fits_anything_iff]
      constructor
      · rintro ⟨w, v, rfl, -, hv⟩
        exact ⟨w, v, rfl, ih.mp hv⟩
      · rintro ⟨w, v, rfl, hv⟩
        exact ⟨w, v, rfl, Node.matching_gap, ih.mpr hv⟩

/-! ### Patterns written as pieces -/

theorem ofBody?_written :
    ofBody? (written ps) cased = (Node.whole (ps.map (Piece.node (!cased)))).checked.map .plain := by
  simp only [ofBody?, compile?, read?_pieces]
  exact (IsPlain.anchored (isPlain_pieces ps)).ofExpr?

theorem boundsOk_pieces : (Node.inSequence (ps.map (Piece.node fold))).boundsOk = true := by
  induction ps with
  | nil => rfl
  | cons p ps ih =>
    have hgap : Node.gap.boundsOk = true := by decide
    rw [List.map_cons, Node.boundsOk_inSequence_cons, ih, Bool.and_true]
    cases p with
    | letter c => rfl
    | anything => exact hgap

theorem isSome_written : (ofBody? (written ps) cased).isSome =
    decide ((Node.inSequence (ps.map (Piece.node (!cased)))).weight + 64 ≤ Node.sizeLimit) := by
  rw [ofBody?_written, Option.isSome_map, Node.isSome_checked_whole, boundsOk_pieces, Bool.true_and]

/-- **Patterns written as pieces** match the texts that the pieces stand for. -/
theorem isMatch_written_iff (hq : ofBody? (written ps) cased = some q) :
    q.isMatch t = true ↔ Fits (Agrees cased) ps t :=
  (isMatch_whole_iff (ofBody?_written.symm.trans hq)).trans matching_pieces

theorem givesUp_written (hq : ofBody? (written ps) cased = some q) : q.givesUp t = false :=
  givesUp_whole (ofBody?_written.symm.trans hq)

section Affixes

variable {cs : List Char}

theorem startsWith?_eq_written :
    startsWith? cs cased = ofBody? (written (cs.map .letter ++ [.anything])) cased := by
  rw [startsWith?, ← written_letters, written, written, List.flatMap_append]
  rfl

theorem endsWith?_eq_written :
    endsWith? cs cased = ofBody? (written (.anything :: cs.map .letter)) cased := by
  rw [endsWith?, ← written_letters, written, written, List.flatMap_cons]
  rfl

theorem contains?_eq_written :
    contains? cs cased = ofBody? (written (.anything :: (cs.map .letter ++ [.anything]))) cased := by
  rw [contains?, ← written_letters, written, written, List.flatMap_cons, List.flatMap_append,
    List.append_assoc]
  rfl

end Affixes

end Pattern

end Vigil
