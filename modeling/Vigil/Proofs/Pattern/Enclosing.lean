import Vigil.Proofs.Pattern.Parts

/-! # Expressions before a closing bracket

The readers of expressions agree on a text in a group and by itself (`agreeUpTo`). They call each
other with one less fuel, so the induction is on the fuel of one of them, with all six readers
(`AgreeUpTo`); the other has whatever fuel it needs.

* `Opening`, `opening`, `group_eq`: a group is read by its kind, as the first characters tell it;
* `sequence_run_closing_eq`: the one place where the readers part, the closing bracket;
* `AgreeUpTo.agree_choice` and so on: one step of each reader. -/

namespace Vigil.Pattern

open Vigil.Text

variable {cs cs' ds ds' : List Char} {x : Char}

namespace Reader

variable {size size' fuel depth : Nat} {c c' : Cursor} {before : List Expr}

/-! ### Kinds of groups -/

/-- What a group is, by the text after its opening bracket. -/
inductive Opening
  | enclosed (build : Expr → Expr)
  | named (close : Char)
  | reference
  | conditional
  | flags
  | plain

/-- The kind of a group and the text after the signs that tell it. -/
def opening : List Char → Opening × List Char
  | '?' :: '=' :: after => (.enclosed (.look false false), after)
  | '?' :: '!' :: after => (.enclosed (.look false true), after)
  | '?' :: '<' :: '=' :: after => (.enclosed (.look true false), after)
  | '?' :: '<' :: '!' :: after => (.enclosed (.look true true), after)
  | '?' :: '<' :: after => (.named '>', after)
  | '?' :: '\'' :: after => (.named '\'', after)
  | '?' :: 'P' :: '<' :: after => (.named '>', after)
  | '?' :: 'P' :: '=' :: after => (.reference, after)
  | '?' :: '>' :: after => (.enclosed .atomic, after)
  | '?' :: '(' :: after => (.conditional, after)
  | '?' :: after => (.flags, after)
  | after => (.plain, after)

/-- Reads what is in a group, with the bracket that closes it. -/
def enclosed (size fuel depth : Nat) (build : Expr → Expr) (after : List Char) : Reader Expr := do
  goTo after
  let e ← choice size fuel depth
  closeGroup
  return build e

/-- Reads the flags of a group and what they are for. -/
def flagged (size fuel depth : Nat) (after : List Char) : Reader Expr := do
  let flags := (← get).flags
  goTo after
  if ← flagLetters (after.length + 1) false '?' then
    let e ← choice size fuel depth
    match ← rest with
    | ')' :: after =>
      modify fun cursor => { cursor with rest := after, flags }
      return e
    | _ => failure
  else return .empty

/-- Reads a group of some kind. -/
def groupOf (size fuel depth : Nat) : Opening × List Char → Reader Expr
  | (.enclosed build, after) => enclosed size fuel depth build after
  | (.named close, cs) => do
    let (name, after) ← name? close cs
    openGroup (some name)
    enclosed size fuel depth .group after
  | (.reference, after) => do
    goTo after
    namedReference ')' false
  | (.conditional, after) => do
    goTo after
    branches size fuel depth
  | (.flags, after) => flagged size fuel depth after
  | (.plain, after) => do
    openGroup none
    enclosed size fuel depth .group after

theorem group_eq : group size (fuel + 1) depth = (do
    if depthLimit ≤ depth then failure
    skipBlanks
    groupOf size fuel depth (opening (← rest))) := by
  rw [group]
  split
  · rfl
  refine bind_congr fun _ => bind_congr fun cs => ?_
  dsimp only
  split
  case h_5 =>
    rw [opening]
    · rfl
    all_goals assumption
  case h_11 =>
    rw [opening]
    · rfl
    all_goals assumption
  case h_12 =>
    rw [opening]
    · rfl
    all_goals assumption
  all_goals rfl

/-- A group that goes on is of the same kind. -/
theorem opening_continues (hcs : Continues cs cs') :
    (opening cs').1 = (opening cs).1 ∧ Continues (opening cs).2 (opening cs').2 := by
  cases hcs with
  | swallowed => exact ⟨rfl, .swallowed⟩
  | append cs =>
    fun_cases opening cs
    case case1 after => exact ⟨rfl, .append after⟩
    case case2 after => exact ⟨rfl, .append after⟩
    case case3 after => exact ⟨rfl, .append after⟩
    case case4 after => exact ⟨rfl, .append after⟩
    case case5 after hlook hnegative =>
      have hafter := Continues.append after
      simp only [List.cons_append]
      rw [opening]
      · exact ⟨rfl, hafter⟩
      · exact hafter.ne_append (l := ['=']) (by decide) hlook
      · exact hafter.ne_append (l := ['!']) (by decide) hnegative
    case case6 after => exact ⟨rfl, .append after⟩
    case case7 after => exact ⟨rfl, .append after⟩
    case case8 after => exact ⟨rfl, .append after⟩
    case case9 after => exact ⟨rfl, .append after⟩
    case case10 after => exact ⟨rfl, .append after⟩
    case case11 after hlook hnegative hbehind hnotBehind hname hquoted hpython hreference hatomic
      hcondition =>
      have hafter := Continues.append after
      simp only [List.cons_append]
      rw [opening]
      · exact ⟨rfl, hafter⟩
      · exact hafter.ne_append (l := ['=']) (by decide) hlook
      · exact hafter.ne_append (l := ['!']) (by decide) hnegative
      · exact hafter.ne_append (l := ['<', '=']) (by decide) hbehind
      · exact hafter.ne_append (l := ['<', '!']) (by decide) hnotBehind
      · exact hafter.ne_append (l := ['<']) (by decide) hname
      · exact hafter.ne_append (l := ['\'']) (by decide) hquoted
      · exact hafter.ne_append (l := ['P', '<']) (by decide) hpython
      · exact hafter.ne_append (l := ['P', '=']) (by decide) hreference
      · exact hafter.ne_append (l := ['>']) (by decide) hatomic
      · exact hafter.ne_append (l := ['(']) (by decide) hcondition
    case case12 hmark =>
      have hplain := (Continues.append cs).ne_append (l := ['?']) (by decide) hmark
      rw [opening]
      · exact ⟨rfl, .append cs⟩
      all_goals exact fun _ heq => hplain _ heq

/-! ### At the closing bracket -/

theorem skipBlanks_run_eq (h : skipped c.flags c.rest = some c.rest) :
    skipBlanks.run c = some ((), c) := by
  simp [skipBlanks, StateT.run_bind, h]

theorem skipped_nil {flags : Flags} : skipped flags [] = some [] := rfl

theorem skipped_closing {flags : Flags} : skipped flags closing = some closing := by
  simp [skipped, skipBlanksFrom, closing]

theorem closeGroup_run_nil (h : c.rest = []) : closeGroup.run c = none := by
  have hskip : skipBlanks.run c = some ((), c) := by
    refine skipBlanks_run_eq ?_
    rw [h, skipped_nil]
  rw [closeGroup, StateT.run_bind, hskip]
  simp only [Option.bind_eq_bind, Option.bind_some, StateT.run_bind, rest, StateT.run_get,
    StateT.run_pure, Option.pure_def, h]
  rfl

/-- Nothing is read at the closing bracket. -/
theorem sequence_run_closing_eq (hc : c.rest = closing) {e : Expr} {d : Cursor}
    (h : (sequence size (fuel + 1) depth before).run c = some (e, d)) :
    e = joined before.reverse ∧ d = c := by
  have hskip : skipBlanks.run c = some ((), c) := by
    refine skipBlanks_run_eq ?_
    rw [hc, skipped_closing]
  rcases fuel with _ | fuel
  · rw [sequence, atom] at h
    simp [StateT.run_bind, rest, hc, closing] at h
  · have hatom : (atom size (fuel + 1) depth).run c = some (.empty, c) := by
      rw [atom, StateT.run_bind, hskip]
      simp [StateT.run_bind, rest, hc, closing]
    have hquantified : (quantified .empty).run c = some (.empty, c) := by
      rw [quantified, StateT.run_bind, hskip]
      simp [StateT.run_bind, hc, closing, quantifier?]
    rw [sequence] at h
    simp [StateT.run_bind, rest, hc, closing, hatom, hquantified] at h
    exact ⟨h.1.symm, h.2.symm⟩

/-! ### Expressions -/

/-- Whether the readers of expressions agree where the first has a certain fuel. -/
structure AgreeUpTo (size size' fuel : Nat) : Prop where
  choice : ∀ fuel' depth depth', Agree (choice size fuel depth) (choice size' fuel' depth')
  alternatives : ∀ fuel' depth depth',
    Agree (alternatives size fuel depth) (alternatives size' fuel' depth')
  sequence : ∀ fuel' depth depth' before,
    Agree (sequence size fuel depth before) (sequence size' fuel' depth' before)
  atom : ∀ fuel' depth depth', Agree (atom size fuel depth) (atom size' fuel' depth')
  group : ∀ fuel' depth depth', Agree (group size fuel depth) (group size' fuel' depth')
  branches : ∀ fuel' depth depth', Agree (branches size fuel depth) (branches size' fuel' depth')

theorem agreeUpTo_zero : AgreeUpTo size size' 0 where
  choice _ _ _ := by
    rw [Reader.choice]
    exact Agree.failure
  alternatives _ _ _ := by
    rw [Reader.alternatives]
    exact Agree.failure
  sequence _ _ _ _ := by
    rw [Reader.sequence]
    exact Agree.failure
  atom _ _ _ := by
    rw [Reader.atom]
    exact Agree.failure
  group _ _ _ := by
    rw [Reader.group]
    exact Agree.failure
  branches _ _ _ := by
    rw [Reader.branches]
    exact Agree.failure

namespace AgreeUpTo

variable {fuel' depth' : Nat} (h : AgreeUpTo size size' fuel)
include h

theorem agree_choice :
    Agree (Reader.choice size (fuel + 1) depth) (Reader.choice size' fuel' depth') := by
  rcases fuel' with _ | fuel'
  · rw [Reader.choice.eq_1 size']
    exact Agree.failure_right
  rw [Reader.choice, Reader.choice]
  refine (h.sequence _ _ _ _).bind fun e => agree_skipBlanks.bind fun _ =>
    Agree.rest fun cs cs' hcs => ?_
  have hend : Agree (do
      let cursor ← get
      if cursor.usesNumbers && !cursor.names.isEmpty then failure else return e)
    (do
      let cursor ← get
      if cursor.usesNumbers && !cursor.names.isEmpty then failure else return e) := by
    refine Agree.get fun c c' hc => ?_
    obtain ⟨cs', -, rfl⟩ := hc
    exact Agree.ite Iff.rfl (fun _ => Agree.failure) fun _ => Agree.pure _
  cases hcs with
  | swallowed => exact hend
  | append cs =>
    rcases cs with _ | ⟨c, cs⟩
    · exact hend
    · split
      case h_1 heq =>
        cases heq
        exact (h.alternatives _ _ _).bind fun _ => Agree.pure _
      case h_2 hbar =>
        split
        case h_1 heq =>
          cases heq
          exact (hbar _ rfl).elim
        case h_2 => exact hend

theorem agree_alternatives :
    Agree (Reader.alternatives size (fuel + 1) depth) (Reader.alternatives size' fuel' depth') := by
  rcases fuel' with _ | fuel'
  · rw [Reader.alternatives.eq_1 size']
    exact Agree.failure_right
  rw [Reader.alternatives, Reader.alternatives]
  refine Agree.rest fun cs cs' hcs => ?_
  cases hcs with
  | swallowed => exact Agree.pure _
  | append cs =>
    rcases cs with _ | ⟨c, cs⟩
    · exact Agree.pure _
    · split
      case h_1 heq =>
        cases heq
        exact (Agree.goTo (.append cs)).bind fun _ => (h.sequence _ _ _ _).bind fun _ =>
          agree_skipBlanks.bind fun _ => (h.alternatives _ _ _).bind fun _ => Agree.pure _
      case h_2 hbar =>
        split
        case h_1 heq =>
          cases heq
          exact (hbar _ rfl).elim
        case h_2 => exact Agree.pure _

theorem agree_enclosed {build : Expr → Expr} (hcs : Continues cs cs') :
    Agree (enclosed size fuel depth build cs) (enclosed size' fuel' depth' build cs') :=
  (Agree.goTo hcs).bind fun _ => (h.choice _ _ _).bind fun _ => agree_closeGroup.bind fun _ =>
    Agree.pure _

theorem agree_flagged (hcs : Continues cs cs') :
    Agree (flagged size fuel depth cs) (flagged size' fuel' depth' cs') := by
  refine Agree.get fun c c' hc => ?_
  obtain ⟨cs', hcs', rfl⟩ := hc
  refine (Agree.goTo hcs).bind fun _ => agree_flagLetters.bind fun colon => ?_
  refine Agree.ite Iff.rfl (fun _ => ?_) fun _ => Agree.pure _
  refine (h.choice _ _ _).bind fun e => Agree.rest fun cs cs' hcs => ?_
  split
  case h_1 after =>
    obtain ⟨after', rfl, hafter⟩ := hcs.cons_inv
    refine Agree.bind ?_ fun _ => Agree.pure e
    intro c c' hc a d a' d' hd hd'
    cases hd
    cases hd'
    obtain ⟨cs', -, rfl⟩ := hc
    exact ⟨rfl, after', hafter, rfl⟩
  case h_2 => exact Agree.failure

theorem agree_groupOf {p p' : Opening × List Char} (hkind : p'.1 = p.1)
    (hcs : Continues p.2 p'.2) :
    Agree (groupOf size fuel depth p) (groupOf size' fuel' depth' p') := by
  obtain ⟨kind, cs⟩ := p
  obtain ⟨kind', cs'⟩ := p'
  subst hkind
  cases kind' with
  | enclosed build => exact h.agree_enclosed hcs
  | named close =>
    refine Agree.lift fun p p' hp hp' => ?_
    obtain ⟨after', hname, hafter⟩ := name?_continues hcs hp
    cases hname.symm.trans hp'
    exact (Agree.modify fun _ _ => rfl).bind fun _ => h.agree_enclosed hafter
  | reference => exact (Agree.goTo hcs).bind fun _ => agree_namedReference (by rintro ⟨⟩)
  | conditional => exact (Agree.goTo hcs).bind fun _ => h.branches _ _ _
  | flags => exact h.agree_flagged hcs
  | plain => exact (Agree.modify fun _ _ => rfl).bind fun _ => h.agree_enclosed hcs

theorem agree_group :
    Agree (Reader.group size (fuel + 1) depth) (Reader.group size' fuel' depth') := by
  rcases fuel' with _ | fuel'
  · rw [Reader.group.eq_1 size']
    exact Agree.failure_right
  rw [group_eq, group_eq]
  by_cases hdepth : depthLimit ≤ depth
  · rw [if_pos hdepth]
    exact Agree.failure_bind
  by_cases hdepth' : depthLimit ≤ depth'
  · rw [if_pos hdepth']
    exact Agree.failure_bind_right
  rw [if_neg hdepth, if_neg hdepth']
  refine agree_skipBlanks.bind fun _ => Agree.rest fun cs cs' hcs => ?_
  obtain ⟨hkind, hafter⟩ := opening_continues hcs
  exact h.agree_groupOf hkind hafter

theorem agree_atom :
    Agree (Reader.atom size (fuel + 1) depth) (Reader.atom size' fuel' depth') := by
  rcases fuel' with _ | fuel'
  · rw [Reader.atom.eq_1 size']
    exact Agree.failure_right
  rw [Reader.atom, Reader.atom]
  refine agree_skipBlanks.bind fun _ => Agree.get fun c c' hc => ?_
  obtain ⟨cs', -, rfl⟩ := hc
  refine Agree.rest fun cs cs' hcs => ?_
  rcases cs with _ | ⟨c, after⟩
  · rcases hcs.nil_inv with rfl | rfl
    · exact Agree.pure Expr.empty
    · exact Agree.pure Expr.empty
  obtain ⟨after', rfl, hafter⟩ := hcs.cons_inv
  refine Agree.ite Iff.rfl (fun _ => Agree.pure _) fun _ => (Agree.goTo hafter).bind fun _ => ?_
  refine Agree.ite Iff.rfl (fun _ => Agree.pure _) fun _ =>
    Agree.ite Iff.rfl (fun _ => Agree.pure _) fun _ =>
    Agree.ite Iff.rfl (fun _ => Agree.pure _) fun _ =>
    Agree.ite Iff.rfl (fun _ => h.group _ _ _) fun _ =>
    Agree.ite Iff.rfl (fun _ => agree_escape) fun _ =>
    Agree.ite Iff.rfl (fun _ => agree_bracket) fun _ => agree_literal

theorem agree_sequence :
    Agree (Reader.sequence size (fuel + 1) depth before)
      (Reader.sequence size' fuel' depth' before) := by
  rcases fuel' with _ | fuel'
  · rw [Reader.sequence.eq_1 size']
    exact Agree.failure_right
  intro c c' hc e d e' d' he he'
  by_cases hempty : c.rest = []
  · have hown : (Reader.sequence size (fuel + 1) depth before).run c =
        some (joined before.reverse, c) := by
      rw [Reader.sequence]
      simp [StateT.run_bind, rest, hempty]
    cases hown.symm.trans he
    obtain ⟨cs', hcs, rfl⟩ := hc
    rw [hempty] at hcs
    rcases hcs.nil_inv with rfl | rfl
    · obtain ⟨rfl, rfl⟩ := sequence_run_closing_eq rfl he'
      exact ⟨rfl, closing, by rwa [hempty], rfl⟩
    · have hwrapped : (Reader.sequence size' (fuel' + 1) depth' before).run { c with rest := [] } =
          some (joined before.reverse, { c with rest := [] }) := by
        rw [Reader.sequence]
        simp [StateT.run_bind, rest]
      cases hwrapped.symm.trans he'
      exact ⟨rfl, [], by rwa [hempty], rfl⟩
  · have hcs : Continues c.rest c'.rest := by
      obtain ⟨cs', hcs, rfl⟩ := hc
      exact hcs
    have hempty' : c'.rest ≠ [] := by
      obtain ⟨x, cs, hx⟩ := List.exists_cons_of_ne_nil hempty
      rw [hx] at hcs
      obtain ⟨cs', hcs', -⟩ := hcs.cons_inv
      simp [hcs']
    rw [Reader.sequence] at he he'
    change StateT.run (if c.rest.isEmpty = true then _ else _) c = _ at he
    change StateT.run (if c'.rest.isEmpty = true then _ else _) c' = _ at he'
    rw [if_neg (by simpa using hempty)] at he
    rw [if_neg (by simpa using hempty')] at he'
    refine ((h.atom _ _ _).bind fun e => agree_quantified.bind fun e =>
      Agree.rest fun ds ds' hds => ?_) hc he he'
    refine Agree.ite ?_ (fun _ => Agree.pure _) fun _ => h.sequence _ _ _ _
    simp only [beq_iff_eq]
    exact hcs.length_eq_iff hds (Or.inl hempty)

/-- Reads the two parts of a conditional, after its condition. -/
def afterCondition (size fuel depth : Nat) (condition : Expr) : Reader Expr := do
  closeGroup
  let start ← rest
  let e ← Reader.choice size fuel depth
  if (← rest).length == start.length then
    match condition with
    | .reference g => closeGroup; return .groupMatched g
    | _ => failure
  else
    closeGroup
    return conditional condition e

theorem agree_afterCondition {condition : Expr} :
    Agree (afterCondition size fuel depth condition)
      (afterCondition size' fuel' depth' condition) := by
  refine agree_closeGroup.bind fun _ => Agree.rest fun start start' hstart =>
    (h.choice _ _ _).bind fun e => ?_
  intro c c' hc a d a' d' hd hd'
  have hcs : Continues c.rest c'.rest := by
    obtain ⟨cs', hcs, rfl⟩ := hc
    exact hcs
  change StateT.run (if (c.rest.length == start.length) = true then _ else _) c = _ at hd
  change StateT.run (if (c'.rest.length == start'.length) = true then _ else _) c' = _ at hd'
  by_cases hempty : start = [] ∧ c.rest = []
  · obtain ⟨rfl, hrest⟩ := hempty
    have hlength : (c.rest.length == ([] : List Char).length) = true := by simp [hrest]
    rw [if_pos hlength] at hd
    split at hd
    case h_1 g =>
      rw [StateT.run_bind, closeGroup_run_nil hrest] at hd
      cases hd
    case h_2 => cases hd
  · refine Agree.ite ?_ (fun _ => ?_) (fun _ => ?_) hc hd hd'
    · simp only [beq_iff_eq]
      exact hstart.length_eq_iff hcs (Decidable.not_and_iff_or_not.mp hempty)
    · split
      case h_1 g => exact agree_closeGroup.bind fun _ => Agree.pure _
      case h_2 => exact Agree.failure
    · exact agree_closeGroup.bind fun _ => Agree.pure _

theorem agree_branches :
    Agree (Reader.branches size (fuel + 1) depth) (Reader.branches size' fuel' depth') := by
  rcases fuel' with _ | fuel'
  · rw [Reader.branches.eq_1 size']
    exact Agree.failure_right
  rw [Reader.branches, Reader.branches]
  refine Agree.rest fun cs cs' hcs => ?_
  intro c c' hc a d a' d' hd hd'
  dsimp only at hd hd'
  split at hd
  case h_1 => cases hd
  case h_2 after =>
    obtain ⟨after', rfl, hafter⟩ := hcs.cons_inv
    exact ((Agree.goTo hafter).bind fun _ => (agree_namedReference fun _ => by decide).bind fun _ =>
      h.agree_afterCondition) hc hd hd'
  case h_3 after =>
    obtain ⟨after', rfl, hafter⟩ := hcs.cons_inv
    exact ((Agree.goTo hafter).bind fun _ => (agree_namedReference fun _ => by decide).bind fun _ =>
      h.agree_afterCondition) hc hd hd'
  case h_4 e tail hquote hless =>
    obtain ⟨after', rfl, hafter⟩ := hcs.cons_inv
    split at hd'
    case h_1 heq => cases heq
    case h_2 heq =>
      cases heq
      exact (hquote rfl).elim
    case h_3 heq =>
      cases heq
      exact (hless rfl).elim
    case h_4 heq =>
      cases heq
      exact (Agree.ite Iff.rfl
        (fun _ => agree_numberedReference.bind fun _ => h.agree_afterCondition)
        fun _ => (h.choice _ _ _).bind fun _ => h.agree_afterCondition) hc hd hd'

end AgreeUpTo

/-- **Expressions are read in a group as by themselves**, where both readings succeed. -/
theorem agreeUpTo : AgreeUpTo size size' fuel := by
  induction fuel with
  | zero => exact agreeUpTo_zero
  | succ fuel ih =>
    exact ⟨fun _ _ _ => ih.agree_choice, fun _ _ _ => ih.agree_alternatives,
      fun _ _ _ _ => ih.agree_sequence, fun _ _ _ => ih.agree_atom, fun _ _ _ => ih.agree_group,
      fun _ _ _ => ih.agree_branches⟩

end Reader
end Vigil.Pattern
