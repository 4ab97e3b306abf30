import Vigil.Proofs.Pattern.Enclosing
import Vigil.Proofs.Pattern.Escaping

/-! # Expressions between the ends of a text

Reading `^(?:`, the text of an expression and `)$` gives the expression that reading the text by
itself gives, with conditions for the ends around it (`read?_between`).

* `sequence_run_of_atom`, `choice_run_of_sequence`: the steps that read the three parts;
* `group_run_inv`: the group, which begins with the flags of the whole text. -/

namespace Vigil.Pattern

open Vigil.Text

/-- An expression between the ends of the text, left out if it matches nothing. -/
def betweenEnds (e : Expr) : Expr :=
  .sequence (.assertion .textStart :: (if Reader.isEmpty e then [] else [e]) ++
    [.assertion .textEnd])

namespace Reader

variable {size size' fuel fuel' depth : Nat} {c c' c₁ : Cursor} {before : List Expr} {e e' : Expr}
  {fold : Bool} {cs after : List Char}

/-! ### The whole text -/

theorem sequence_run_of_atom
    (hatom : (atom size fuel depth).run c = some (e, c₁)) (hcs : c.rest ≠ [])
    (hskip : skipped c₁.flags c₁.rest = some c₁.rest)
    (hquantifier : quantifier? c₁.flags c₁.rest = none)
    (hlength : c₁.rest.length ≠ c.rest.length) :
    (sequence size (fuel + 1) depth before).run c =
      (sequence size fuel depth (if isEmpty e then before else e :: before)).run c₁ := by
  have hquantified : (quantified e).run c₁ = some (e, c₁) := by
    rw [quantified, StateT.run_bind, skipBlanks_run_eq hskip]
    simp [StateT.run_bind, hquantifier]
  rw [sequence]
  simp [StateT.run_bind, rest, hcs, hatom, hquantified, hlength]

theorem choice_run_of_sequence
    (hsequence : (sequence size fuel depth []).run c = some (e, c₁)) (hrest : c₁.rest = [])
    (h : (choice size (fuel + 1) depth).run c = some (e', c')) : e' = e ∧ c' = c₁ := by
  have hskip : skipBlanks.run c₁ = some ((), c₁) := by
    refine skipBlanks_run_eq ?_
    rw [hrest, skipped_nil]
  rw [choice, StateT.run_bind, hsequence] at h
  simp only [Option.bind_eq_bind, Option.bind_some, StateT.run_bind, hskip, rest, StateT.run_get,
    StateT.run_pure, Option.pure_def, hrest] at h
  split at h
  case isTrue => cases h
  case isFalse =>
    cases h
    exact ⟨rfl, rfl⟩

/-- A group without a number is read as what is inside, up to a bracket, with which its flags end. -/
theorem group_run_inv (hdepth : depth < depthLimit)
    (h : (group size (fuel + 1) depth).run (cursorAt fold ('?' :: ':' :: cs)) = some (e, c')) :
    ∃ c after, (choice size fuel depth).run (cursorAt fold cs) = some (e, c) ∧
      c.rest = ')' :: after ∧ c' = { c with rest := after, flags := (cursorAt fold cs).flags } := by
  have hmark : NoComment ('?' :: ':' :: cs) := noComment_cons (by decide)
  have hopening : opening ('?' :: ':' :: cs) = (.flags, ':' :: cs) := rfl
  rw [group_eq, if_neg (Nat.not_le.mpr hdepth), StateT.run_bind, skipBlanks_run hmark] at h
  simp only [Option.bind_eq_bind, Option.bind_some, StateT.run_bind, rest_run, hopening, groupOf,
    flagged, StateT.run_get, Option.pure_def, goTo_run, flagLetters_run_colon, if_pos] at h
  obtain ⟨⟨e, c⟩, hchoice, hclose⟩ := Option.bind_eq_some_iff.mp h
  simp only [Option.bind_some, rest, StateT.run_bind, StateT.run_get, StateT.run_pure,
    Option.pure_def, Option.bind_eq_bind] at hclose
  split at hclose
  case h_1 after hrest =>
    cases hclose
    exact ⟨c, after, hchoice, hrest, rfl⟩
  case h_2 => cases hclose

/-- What is in a group before the end is read as by itself. -/
theorem group_run_closing (hdepth : depth < depthLimit)
    (hown : (choice size' fuel' 0).run (cursorAt fold cs) = some (e, c)) (hc : c.rest = [])
    (h : (group size (fuel + 1) depth).run (cursorAt fold ('?' :: ':' :: (cs ++ closing))) =
      some (e', c')) :
    e' = e ∧ c' = { c with rest := ['$'], flags := (cursorAt fold cs).flags } := by
  obtain ⟨c₁, after, hchoice, hrest, rfl⟩ := group_run_inv hdepth h
  have hcontinues : (cursorAt fold cs).Continues (cursorAt fold (cs ++ closing)) :=
    ⟨_, .append cs, rfl⟩
  obtain ⟨rfl, cs', hcs', rfl⟩ := agreeUpTo.choice _ _ _ hcontinues hown hchoice
  rw [hc] at hcs'
  rcases hcs'.nil_inv with rfl | rfl
  · cases hrest
    exact ⟨rfl, rfl⟩
  · cases hrest

/-- What is in a group between the ends is read as by itself. -/
theorem sequence_run_between
    (hown : (choice size' fuel' 0).run (cursorAt fold cs) = some (e, c)) (hc : c.rest = [])
    (h : (sequence size (fuel + 4) 0 []).run
      (cursorAt fold ('^' :: '(' :: '?' :: ':' :: (cs ++ closing))) = some (e', c')) :
    e' = betweenEnds e ∧ c' = { c with rest := [], flags := (cursorAt fold cs).flags } := by
  have hgroup : NoComment ('(' :: '?' :: ':' :: (cs ++ closing)) := by rintro ds ⟨⟩
  have hstart : (atom size (fuel + 3) 0).run
      (cursorAt fold ('^' :: '(' :: '?' :: ':' :: (cs ++ closing))) =
        some (.assertion .textStart, cursorAt fold ('(' :: '?' :: ':' :: (cs ++ closing))) := by
    rw [atom, StateT.run_bind, skipBlanks_run (noComment_cons (by decide))]
    rfl
  have hinside : (atom size (fuel + 2) 0).run
      (cursorAt fold ('(' :: '?' :: ':' :: (cs ++ closing))) =
        (group size (fuel + 1) 1).run (cursorAt fold ('?' :: ':' :: (cs ++ closing))) := by
    rw [atom, StateT.run_bind, skipBlanks_run hgroup]
    rfl
  rw [sequence_run_of_atom hstart (List.cons_ne_nil _ _) rfl rfl (by simp [cursorAt])] at h
  rcases hread : (group size (fuel + 1) 1).run (cursorAt fold ('?' :: ':' :: (cs ++ closing))) with
    _ | ⟨e₁, c₁⟩
  · rw [hread] at hinside
    rw [sequence] at h
    simp [StateT.run_bind, hinside] at h
  · obtain ⟨rfl, rfl⟩ := group_run_closing (by decide) hown hc hread
    rw [hread] at hinside
    rw [sequence_run_of_atom hinside (List.cons_ne_nil _ _) rfl rfl (by simp [cursorAt])] at h
    have hend : (atom size (fuel + 1) 0).run
        { c with rest := ['$'], flags := (cursorAt fold cs).flags } =
          some (.assertion .textEnd, { c with rest := [], flags := (cursorAt fold cs).flags }) := by
      rw [atom, StateT.run_bind, skipBlanks_run_eq rfl]
      rfl
    rw [sequence_run_of_atom hend (List.cons_ne_nil _ _) rfl rfl (by simp), sequence] at h
    cases h
    refine ⟨?_, rfl⟩
    unfold betweenEnds
    by_cases hempty : isEmpty e₁ = true
    · rw [if_pos hempty, if_pos hempty]
      rfl
    · rw [if_neg hempty, if_neg hempty]
      rfl

end Reader

open Reader

/-- **An expression between the ends of the text** is read as by itself, where either is one. -/
theorem read?_between {fold : Bool} {text : List Char} {size size' : Nat} {e e' : Expr}
    {referenced referenced' : List Nat}
    (hown : read? { fold, anyNewline := true } text size = some (e, referenced))
    (h : read? { fold, anyNewline := true } ("^(?:".toList ++ text ++ ")$".toList) size' =
      some (e', referenced')) :
    e' = betweenEnds e ∧ referenced' = referenced := by
  have htext : "^(?:".toList ++ text ++ ")$".toList =
      '^' :: '(' :: '?' :: ':' :: (text ++ closing) := by simp [closing]
  rw [htext] at h
  unfold read? at hown h
  split at hown
  case h_2 => cases hown
  case h_1 e c hown' =>
    split at hown
    case isFalse => cases hown
    case isTrue hrest =>
      cases hown
      split at h
      case h_2 => cases h
      case h_1 e' c' hwhole =>
        split at h
        case isFalse => cases h
        case isTrue hrest' =>
          cases h
          have hfuel : 8 * ('^' :: '(' :: '?' :: ':' :: (text ++ closing)).length + 8 =
              8 * (text ++ closing).length + 35 + 5 := by
            simp only [List.length_cons]
            omega
          rw [hfuel] at hwhole
          have hsplit := hwhole
          rw [choice] at hsplit
          obtain ⟨e₁, c₁, hsequence, -⟩ := run_bind_eq_some.mp hsplit
          obtain ⟨rfl, rfl⟩ := sequence_run_between hown' (List.isEmpty_iff.mp hrest) hsequence
          obtain ⟨rfl, rfl⟩ := choice_run_of_sequence hsequence rfl hwhole
          exact ⟨rfl, rfl⟩

end Vigil.Pattern
