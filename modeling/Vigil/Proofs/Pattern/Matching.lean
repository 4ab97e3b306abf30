import Mathlib.Data.List.Basic
import Mathlib.Data.Nat.Basic
import Mathlib.Order.Basic
import Vigil.Pattern.Reach

/-! # What expressions match

A `Matching` says of a text, given what stands before and after it, whether it is matched.
`Node.matching` is the matching of a plain expression: one clause for each kind of expression, and
no search.

`Spans M text i j`: the part of `text` from place `i` to place `j` is matched there. Matchings in a
row (`followedBy`, `repeated`, `times`) lead from place to place: `spans_followedBy`,
`spans_repeated_succ`, `spans_repeated_add` and `spans_times`. A span never goes back and never
leaves the text (`Spans.le`, `Spans.le_length`). -/

namespace Vigil.Pattern

/-- Which texts are matched, given what stands before and after them. -/
def Matching : Type := (before matched after : List Char) → Prop

namespace Matching

/-- The empty text. -/
def nothing : Matching := fun _ w _ => w = []

/-- A text in two parts, the first matched by `M` and the second by `N`. -/
def followedBy (M N : Matching) : Matching := fun before w after =>
  ∃ u v, w = u ++ v ∧ M before u (v ++ after) ∧ N (before ++ u) v after

/-- A text in a number of parts, each matched by `M`. -/
def repeated (M : Matching) : Nat → Matching
  | 0 => nothing
  | n + 1 => M.followedBy (M.repeated n)

/-- A text in parts matched by `M`, their number satisfying `P`. -/
def times (M : Matching) (P : Nat → Prop) : Matching := fun before w after =>
  ∃ n, P n ∧ M.repeated n before w after

/-- The part of a text between two places is matched. -/
def Spans (M : Matching) (text : List Char) (i j : Nat) : Prop :=
  ∃ before w after, text = before ++ w ++ after ∧ i = before.length ∧ j = i + w.length ∧
    M before w after

variable {M N : Matching} {text : List Char} {i j : Nat}

theorem Spans.le (h : M.Spans text i j) : i ≤ j := by
  obtain ⟨before, w, after, -, -, rfl, -⟩ := h
  omega

theorem Spans.le_length (h : M.Spans text i j) : j ≤ text.length := by
  obtain ⟨before, w, after, rfl, rfl, rfl, -⟩ := h
  simp

theorem spans_nothing : nothing.Spans text i j ↔ i ≤ text.length ∧ j = i := by
  constructor
  · rintro ⟨before, w, after, rfl, rfl, rfl, rfl⟩
    simp
  · rintro ⟨hi, rfl⟩
    exact ⟨text.take j, [], text.drop j, by simp, by simp [hi], by simp, rfl⟩

/-- **Matchings in a row lead over a place between them.** -/
theorem spans_followedBy :
    (M.followedBy N).Spans text i j ↔ ∃ k, M.Spans text i k ∧ N.Spans text k j := by
  constructor
  · rintro ⟨before, _, after, rfl, rfl, rfl, u, v, rfl, hM, hN⟩
    refine ⟨before.length + u.length, ⟨before, u, v ++ after, by simp, rfl, rfl, hM⟩,
      ⟨before ++ u, v, after, by simp, by simp, by simp; omega, hN⟩⟩
  · rintro ⟨_, ⟨before, u, after, htext, rfl, rfl, hM⟩, ⟨before', v, after', htext', hlen, rfl, hN⟩⟩
    -- the two splits of the text meet at one place, so the second continues the first
    have hsplit : before ++ u ++ after = before' ++ (v ++ after') := by
      rw [← htext, htext', List.append_assoc]
    obtain ⟨rfl, rfl⟩ := List.append_inj hsplit (by simpa using hlen)
    exact ⟨before, u ++ v, after', by simp [htext'], rfl, by simp; omega, u, v, rfl, hM, hN⟩

theorem spans_repeated_zero : (M.repeated 0).Spans text i j ↔ i ≤ text.length ∧ j = i :=
  spans_nothing

theorem spans_repeated_succ {n : Nat} : (M.repeated (n + 1)).Spans text i j ↔
    ∃ k, M.Spans text i k ∧ (M.repeated n).Spans text k j :=
  spans_followedBy

theorem spans_repeated_add {m n : Nat} : (M.repeated (m + n)).Spans text i j ↔
    ∃ k, (M.repeated m).Spans text i k ∧ (M.repeated n).Spans text k j := by
  induction m generalizing i with
  | zero =>
    simp only [Nat.zero_add, spans_repeated_zero]
    constructor
    · intro h
      exact ⟨i, ⟨h.le.trans h.le_length, rfl⟩, h⟩
    · rintro ⟨_, ⟨-, rfl⟩, h⟩
      exact h
  | succ m ih =>
    rw [Nat.succ_add, spans_repeated_succ]
    constructor
    · rintro ⟨l, hl, h⟩
      obtain ⟨k, hk, h⟩ := ih.mp h
      exact ⟨k, spans_repeated_succ.mpr ⟨l, hl, hk⟩, h⟩
    · rintro ⟨k, hk, h⟩
      obtain ⟨l, hl, hk⟩ := spans_repeated_succ.mp hk
      exact ⟨l, hl, ih.mpr ⟨k, hk, h⟩⟩

theorem spans_times {P : Nat → Prop} :
    (M.times P).Spans text i j ↔ ∃ n, P n ∧ (M.repeated n).Spans text i j := by
  constructor
  · rintro ⟨before, w, after, htext, hi, hj, n, hn, h⟩
    exact ⟨n, hn, before, w, after, htext, hi, hj, h⟩
  · rintro ⟨n, hn, before, w, after, htext, hi, hj, h⟩
    exact ⟨before, w, after, htext, hi, hj, n, hn, h⟩

end Matching

open Matching

/-! ### Expressions -/

/-- **What a plain expression matches.** -/
def Node.matching : Node → Matching
  | .empty => nothing
  | .set s => fun _ w _ => ∃ c, w = [c] ∧ s.contains c
  | .assertion a => fun before w after => w = [] ∧ a.holds before.getLast? after.head?
  | .sequence a b => a.matching.followedBy b.matching
  | .choice a b => fun before w after => a.matching before w after ∨ b.matching before w after
  | .group _ a => a.matching
  | .repetition a least most _ =>
    a.matching.times fun n => least ≤ n ∧ ∀ k ∈ most, n ≤ max least k

variable {text : List Char} {i j : Nat}

theorem spans_set {s : CharClass} : (Node.set s).matching.Spans text i j ↔
    j = i + 1 ∧ ∃ c, text[i]? = some c ∧ s.contains c := by
  constructor
  · rintro ⟨before, _, after, rfl, rfl, rfl, c, rfl, hc⟩
    exact ⟨rfl, c, by simp, hc⟩
  · rintro ⟨rfl, c, hget, hc⟩
    obtain ⟨hi, rfl⟩ := List.getElem?_eq_some_iff.mp hget
    refine ⟨text.take i, [text[i]], text.drop (i + 1), ?_, ?_, by simp, text[i], rfl, hc⟩
    · rw [List.append_assoc, List.singleton_append, ← List.drop_eq_getElem_cons hi,
        List.take_append_drop]
    · rw [List.length_take, Nat.min_eq_left hi.le]

/-- The characters around a place are the ends of what stands before and after it. -/
theorem holdsAt_append {a : Assertion} {before after : List Char} :
    a.holdsAt (before ++ after).toArray before.length =
      a.holds before.getLast? after.head? := by
  have hnext : (before ++ after)[before.length]? = after.head? := by
    rw [List.getElem?_append_right le_rfl, Nat.sub_self, List.head?_eq_getElem?]
  have hprev : (if before.length = 0 then none else (before ++ after)[before.length - 1]?) =
      before.getLast? := by
    rcases before.eq_nil_or_concat with rfl | ⟨init, c, rfl⟩
    · rfl
    · simp
  simp only [Assertion.holdsAt, List.getElem?_toArray, hnext, hprev]

theorem spans_assertion {a : Assertion} : (Node.assertion a).matching.Spans text i j ↔
    j = i ∧ i ≤ text.length ∧ a.holdsAt text.toArray i := by
  constructor
  · rintro ⟨before, _, after, rfl, rfl, rfl, rfl, ha⟩
    refine ⟨rfl, by simp, ?_⟩
    rwa [List.append_nil, holdsAt_append]
  · rintro ⟨rfl, hi, ha⟩
    refine ⟨text.take j, [], text.drop j, by simp, by simp [hi], rfl, rfl, ?_⟩
    rwa [← holdsAt_append, List.take_append_drop, List.length_take, Nat.min_eq_left hi]

theorem spans_choice {a b : Node} : (Node.choice a b).matching.Spans text i j ↔
    a.matching.Spans text i j ∨ b.matching.Spans text i j := by
  constructor
  · rintro ⟨before, w, after, htext, hi, hj, ha | hb⟩
    · exact Or.inl ⟨before, w, after, htext, hi, hj, ha⟩
    · exact Or.inr ⟨before, w, after, htext, hi, hj, hb⟩
  · rintro (⟨before, w, after, htext, hi, hj, ha⟩ | ⟨before, w, after, htext, hi, hj, hb⟩)
    · exact ⟨before, w, after, htext, hi, hj, Or.inl ha⟩
    · exact ⟨before, w, after, htext, hi, hj, Or.inr hb⟩

end Vigil.Pattern
