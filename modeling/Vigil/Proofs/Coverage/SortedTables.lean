import Mathlib.Data.List.Sort
import Vigil.Coverage
import Vigil.Proofs.Json.Members

/-! # Sorted tables

The tables of a coverage are sorted by name, and each name is in them once.

* `updateSorted_eq_insert`: to change an entry is to set it;
* `lookup_updateSorted`, `namesIncrease_updateSorted`: one entry is changed, and the others stay as
  they are;
* `lookup_foldl_updateSorted`: the same change for several names, which may repeat;
* `mem_insertSorted`, `pairwise_insertSorted`: names in order, each once. -/

namespace Vigil

open Vigil.Json (NamesIncrease)

variable {α : Type} {name other : String} {names : List String} {change : Option α → α}
  {l : List (String × α)}

/-! ### Entries -/

/-- To change an entry is to set it to what it is changed to. -/
theorem updateSorted_eq_insert (h : NamesIncrease l) :
    updateSorted name change l = Json.insert name (change (l.lookup name)) l := by
  induction l with
  | nil => rfl
  | cons q l ih =>
    obtain ⟨first, a⟩ := q
    obtain ⟨hq, hl⟩ := List.pairwise_cons.mp h
    unfold updateSorted Json.insert
    split_ifs with heq hlt
    · rw [lookup_entry, if_pos heq]
    · have hnone : List.lookup name ((first, a) :: l) = none :=
        Json.lookup_eq_none_of_lt (List.forall_mem_cons.mpr ⟨hlt, fun p hp => hlt.trans (hq p hp)⟩)
      rw [hnone]
    · rw [ih hl, lookup_entry, if_neg heq]

theorem namesIncrease_updateSorted (h : NamesIncrease l) (name : String) (change : Option α → α) :
    NamesIncrease (updateSorted name change l) := by
  rw [updateSorted_eq_insert h]
  exact h.insert name _

theorem lookup_updateSorted (h : NamesIncrease l) : (updateSorted name change l).lookup other =
    if other = name then some (change (l.lookup name)) else l.lookup other := by
  rw [updateSorted_eq_insert h, Json.lookup_insert]

/-! ### Several names -/

theorem namesIncrease_foldl_updateSorted (h : NamesIncrease l) (names : List String)
    (change : Option α → α) :
    NamesIncrease (names.foldl (fun l name => updateSorted name change l) l) := by
  induction names generalizing l with
  | nil => exact h
  | cons name names ih => exact ih (namesIncrease_updateSorted h name change)

/-- **The same change for several names.** A name that repeats is changed again, so that a second
change must not matter. -/
theorem lookup_foldl_updateSorted (h : NamesIncrease l)
    (hagain : change (some (change (l.lookup other))) = change (l.lookup other)) :
    (names.foldl (fun l name => updateSorted name change l) l).lookup other =
      if other ∈ names then some (change (l.lookup other)) else l.lookup other := by
  induction names generalizing l with
  | nil => rfl
  | cons name names ih =>
    have hl : NamesIncrease (updateSorted name change l) := namesIncrease_updateSorted h name change
    have hstep : (updateSorted name change l).lookup other = _ := lookup_updateSorted h
    rw [List.foldl_cons]
    by_cases hname : other = name
    · subst hname
      rw [if_pos rfl] at hstep
      rw [ih hl (by rw [hstep, hagain, hagain]), hstep, hagain, ite_self,
        if_pos List.mem_cons_self]
    · rw [if_neg hname] at hstep
      rw [ih hl (by rw [hstep, hagain]), hstep]
      simp only [List.mem_cons, hname, false_or]

/-! ### Names -/

theorem mem_insertSorted : other ∈ insertSorted name names ↔ other = name ∨ other ∈ names := by
  induction names with
  | nil => exact List.mem_cons
  | cons first names ih =>
    unfold insertSorted
    split_ifs with heq
    · rw [List.mem_cons, heq]
      exact ⟨Or.inr, fun h => h.elim Or.inl id⟩
    · exact List.mem_cons
    · rw [List.mem_cons, ih, List.mem_cons]
      exact or_left_comm

theorem pairwise_insertSorted (h : names.Pairwise (· < ·)) (name : String) :
    (insertSorted name names).Pairwise (· < ·) := by
  induction names with
  | nil => exact List.pairwise_singleton _ _
  | cons first names ih =>
    obtain ⟨hfirst, hnames⟩ := List.pairwise_cons.mp h
    unfold insertSorted
    split_ifs with heq hlt
    · exact h
    · refine List.pairwise_cons.mpr ⟨fun other hmem => ?_, h⟩
      rcases List.mem_cons.mp hmem with rfl | hmem
      · exact hlt
      · exact hlt.trans (hfirst other hmem)
    · have hgt : first < name := lt_of_le_of_ne (not_lt.mp hlt) (Ne.symm heq)
      refine List.pairwise_cons.mpr ⟨fun other hmem => ?_, ih hnames⟩
      rcases mem_insertSorted.mp hmem with rfl | hmem
      · exact hgt
      · exact hfirst other hmem

/-- Names that are added one after the other. -/
abbrev insertAll (added names : List String) : List String :=
  added.foldl (fun names name => insertSorted name names) names

theorem mem_insertAll {added : List String} :
    other ∈ insertAll added names ↔ other ∈ added ∨ other ∈ names := by
  induction added generalizing names with
  | nil => simp
  | cons name added ih =>
    rw [insertAll, List.foldl_cons, ih, mem_insertSorted, List.mem_cons]
    tauto

theorem pairwise_insertAll (h : names.Pairwise (· < ·)) (added : List String) :
    (insertAll added names).Pairwise (· < ·) := by
  induction added generalizing names with
  | nil => exact h
  | cons name added ih => exact ih (pairwise_insertSorted h name)

/-- Names that are there already are not added again. -/
theorem insertAll_insertAll (h : names.Pairwise (· < ·)) (added : List String) :
    insertAll added (insertAll added names) = insertAll added names := by
  have hsorted : (insertAll added names).Pairwise (· < ·) := pairwise_insertAll h added
  refine List.Pairwise.eq_of_mem_iff (pairwise_insertAll hsorted added) hsorted fun other => ?_
  rw [mem_insertAll, mem_insertAll]
  tauto

end Vigil
