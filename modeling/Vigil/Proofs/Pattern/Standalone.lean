import Vigil.Proofs.Pattern.Exploring
import Vigil.Proofs.Pattern.Literals

/-! # Expressions by themselves

The text of an expression is put in a group between the ends of the text (`regex?`). Where it is
the text of an expression by itself, the pattern matches only texts that the expression matches as a
whole. Nothing makes sure of that: brackets that do not match may close the group.

* `MatchesWhole`: the texts that the pattern of an expression by itself (`compile?`) matches as a whole;
* `isMatch_betweenEnds_iff`: plain expressions, by the texts of their trees;
* `Machine.reachesEnd_of_search`: hard expressions, by the machine that runs their program. -/

namespace Vigil.Pattern

variable {text t : List Char} {cased : Bool} {own p : Pattern} {e : Expr}
  {referenced : List Nat}

theorem regex?_eq_compile? :
    regex? text cased = compile? ("^(?:".toList ++ text ++ ")$".toList) cased := by
  have hwhole : '^' :: ("(?:".toList ++ text ++ ")".toList ++ ['$']) =
      "^(?:".toList ++ text ++ ")$".toList := by
    simp
  rw [regex?, ofBody?, hwhole]

/-- Whether a pattern has a match that begins before the first character of a text and leaves none.
The machine looks for it among all matches from the first place; an instruction that sets anew where
the match is said to begin changes nothing about the characters it goes through. -/
def MatchesWhole (p : Pattern) (t : List Char) : Prop :=
  match p with
  | .exact _ _ => p.isMatch t = true
  | .plain n => n.matching [] t []
  | .hard program => Machine.ReachesEnd program t.toArray (Machine.startAt program 0)

/-! ### Patterns of expressions -/

/-- Whether a pattern is made from an expression, by the machine or by the texts of a tree. -/
inductive IsFrom (e : Expr) (referenced : List Nat) : Pattern → Prop
  | hard {program : Program} (hhard : e.isHard referenced 1 = true)
    (hprogram : Program.ofExpr? referenced e = some program) : IsFrom e referenced (.hard program)
  | plain {n : Node} (hplain : e.isHard referenced 1 = false) (hn : Node.ofExpr? 1 e = some n) :
    IsFrom e referenced (.plain n)

theorem isFrom_of_ofExpr? (h : ofExpr? e referenced = some p) : IsFrom e referenced p := by
  unfold ofExpr? at h
  split at h
  case isTrue => cases h
  case isFalse =>
    split at h
    case isTrue hhard =>
      obtain ⟨program, hprogram, rfl⟩ := Option.map_eq_some_iff.mp h
      exact .hard hhard hprogram
    case isFalse hplain =>
      obtain ⟨n, hn, rfl⟩ := Option.map_eq_some_iff.mp h
      obtain ⟨m, hm, hchecked⟩ := Option.bind_eq_some_iff.mp hn
      obtain rfl := eq_of_checked hchecked
      exact .plain (Bool.of_not_eq_true hplain) hm

theorem exists_of_compile? (h : compile? text cased = some p) : ∃ e referenced,
    read? { fold := !cased, anyNewline := true } text
      (byteSize text + if cased then 4 else 5) = some (e, referenced) ∧
    IsFrom e referenced p := by
  unfold compile? at h
  dsimp only at h
  split at h
  case h_1 e referenced hread => exact ⟨e, referenced, hread, isFrom_of_ofExpr? h⟩
  case h_2 => cases h

/-! ### Between the ends of the text -/

theorem isHard_betweenEnds : (betweenEnds e).isHard referenced 1 = e.isHard referenced 1 := by
  unfold betweenEnds
  split
  case isTrue hempty =>
    cases e with
    | empty => rfl
    | _ => cases hempty
  case isFalse => simp [Expr.isHard, Expr.anyHard, Assertion.isHard, Expr.groups]

/-- The tree of a plain expression between the ends of the text. -/
theorem ofExpr?_betweenEnds {n : Node} (h : Node.ofExpr? 1 e = some n) :
    ∃ ns, Node.ofExpr? 1 (betweenEnds e) = some (Node.whole ns) ∧ Node.inSequence ns = n := by
  unfold betweenEnds
  split
  case isTrue hempty =>
    cases e with
    | empty =>
      cases h
      exact ⟨[], rfl, rfl⟩
    | _ => cases hempty
  case isFalse =>
    refine ⟨[n], ?_, rfl⟩
    simp [Node.ofExpr?, Node.ofExprs?, Assertion.isHard, Expr.groups, Node.whole, h]

/-- A plain expression between the ends of the text matches the texts that it matches from the first
character to the last. -/
theorem isMatch_betweenEnds_iff {n n' : Node} (hn : Node.ofExpr? 1 e = some n)
    (hn' : Node.ofExpr? 1 (betweenEnds e) = some n') :
    (Pattern.plain n').isMatch t = true ↔ n.matching [] t [] := by
  obtain ⟨ns, hbetween, rfl⟩ := ofExpr?_betweenEnds hn
  cases hbetween.symm.trans hn'
  rw [← Node.occursIn_whole]
  simp [isMatch, compare]

/-- **Whole matches.** Where a text is an expression by itself, its pattern matches only texts that
the expression matches from the first character to the last. -/
theorem matchesWhole_of_isMatch (hown : compile? text cased = some own)
    (hp : regex? text cased = some p) (h : p.isMatch t = true) : own.MatchesWhole t := by
  obtain ⟨e, referenced, hread, hown⟩ := exists_of_compile? hown
  rw [regex?_eq_compile?] at hp
  obtain ⟨e', referenced', hread', hp⟩ := exists_of_compile? hp
  obtain ⟨rfl, rfl⟩ := read?_between hread hread'
  cases hown with
  | hard hhard hprogram =>
    cases hp with
    | hard hhard' hprogram' =>
      obtain ⟨high, hencloses⟩ := Program.encloses_ofExpr? hhard hprogram hprogram'
      exact Machine.reachesEnd_of_search hencloses (of_decide_eq_true h)
    | plain hplain =>
      rw [isHard_betweenEnds, hhard] at hplain
      cases hplain
  | plain hplain hn =>
    cases hp with
    | hard hhard =>
      rw [isHard_betweenEnds, hplain] at hhard
      cases hhard
    | plain hplain' hn' => exact (isMatch_betweenEnds_iff hn hn').mp h

/-- A reference to a group: the letters have to be the same. -/
theorem matchesWhole_of_isMatch_reference :
    ∃ own p, compile? "(a|b)\\1".toList true = some own ∧ regex? "(a|b)\\1".toList true = some p ∧
      p.isMatch "bb".toList = true ∧ own.MatchesWhole "bb".toList := by
  have hown : (compile? "(a|b)\\1".toList true).isSome = true := by decide +kernel
  have hmatch : (regex? "(a|b)\\1".toList true).any (·.isMatch "bb".toList) = true := by
    decide +kernel
  obtain ⟨own, hown⟩ := Option.isSome_iff_exists.mp hown
  obtain ⟨p, hp, hmatch⟩ := (Option.any_eq_true _ _).mp hmatch
  exact ⟨own, p, hown, hp, hmatch, matchesWhole_of_isMatch hown hp hmatch⟩

/-- A text in which brackets do not match may close the group around it: no expression by itself, it
has a pattern, one that asks only for a first character `a` or a last character `b`. -/
theorem isMatch_regex?_unbalanced : compile? "a)|(?:b".toList true = none ∧
    ∃ p, regex? "a)|(?:b".toList true = some p ∧ p.isMatch "ax".toList = true := by
  have hmatch : (regex? "a)|(?:b".toList true).any (·.isMatch "ax".toList) = true := by
    decide +kernel
  exact ⟨by decide +kernel, (Option.any_eq_true _ _).mp hmatch⟩

end Vigil.Pattern
