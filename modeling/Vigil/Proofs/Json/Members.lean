import Mathlib.Data.List.Induction
import Mathlib.Data.String.Basic
import Vigil.Json.Basic
import Vigil.Proofs.Lookup
import Vigil.Proofs.Results

/-! # Members in the order of their names

An object keeps its members in the order of their names (`NamesIncrease`), and so do other tables.

* `NamesIncrease.insert`, `lookup_insert`: a member that is set has its place and its value;
* `NamesIncrease.mem_iff`: where the names increase, a member is what its name is looked up as;
* `NamesIncrease.forall₂`: what is related name by name is related member by member;
* `namesIncrease_foldl_insert`, `lookup_foldl_insert`: members that are set one after the other are in
  order, and of the values that are set for one name the last counts. -/

namespace Vigil.Json

variable {α : Type} {name other : String} {value : α} {l : List (String × α)}

/-- Whether the names of members increase. -/
def NamesIncrease (l : List (String × α)) : Prop := l.Pairwise fun p q => p.1 < q.1

theorem mem_insert {p : String × α} (h : p ∈ insert name value l) : p = (name, value) ∨ p ∈ l := by
  induction l with
  | nil => exact Or.inl (List.mem_singleton.mp h)
  | cons q l ih =>
    unfold insert at h
    split_ifs at h
    · rcases List.mem_cons.mp h with rfl | h
      · exact Or.inl rfl
      · exact Or.inr (List.mem_cons_of_mem q h)
    · exact List.mem_cons.mp h
    · rcases List.mem_cons.mp h with rfl | h
      · exact Or.inr List.mem_cons_self
      · exact (ih h).imp_right (List.mem_cons_of_mem q)

theorem NamesIncrease.insert (h : NamesIncrease l) (name : String) (value : α) :
    NamesIncrease (insert name value l) := by
  induction l with
  | nil => exact List.pairwise_singleton _ _
  | cons q l ih =>
    obtain ⟨hq, hl⟩ := List.pairwise_cons.mp h
    unfold Json.insert
    split_ifs with heq hlt
    · exact List.pairwise_cons.mpr ⟨fun p hp => heq ▸ hq p hp, hl⟩
    · exact List.pairwise_cons.mpr ⟨fun p hp => (List.mem_cons.mp hp).elim
        (fun hp => hp ▸ hlt) fun hp => hlt.trans (hq p hp), h⟩
    · have hgt : q.1 < name := lt_of_le_of_ne (not_lt.mp hlt) (Ne.symm heq)
      exact List.pairwise_cons.mpr ⟨fun p hp => (mem_insert hp).elim (fun hp => hp ▸ hgt) (hq p),
        ih hl⟩

theorem lookup_insert : (insert name value l).lookup other =
    if other = name then some value else l.lookup other := by
  induction l with
  | nil => exact lookup_entry
  | cons q l ih =>
    obtain ⟨first, old⟩ := q
    by_cases hfirst : name = first
    · rw [insert, if_pos hfirst, lookup_entry, lookup_entry, ← hfirst]
      by_cases hother : other = name
      · rw [if_pos hother, if_pos hother]
      · rw [if_neg hother, if_neg hother, if_neg hother]
    · by_cases hlt : name < first
      · rw [insert, if_neg hfirst, if_pos hlt, lookup_entry]
      · rw [insert, if_neg hfirst, if_neg hlt, lookup_entry, lookup_entry, ih]
        by_cases hother : other = first
        · rw [if_pos hother, if_pos hother, if_neg (hother ▸ Ne.symm hfirst)]
        · rw [if_neg hother, if_neg hother]

/-- A name after all others is put at the end. -/
theorem insert_of_lt (h : ∀ p ∈ l, p.1 < name) : insert name value l = l ++ [(name, value)] := by
  induction l with
  | nil => rfl
  | cons q l ih =>
    have hq : q.1 < name := h q List.mem_cons_self
    unfold insert
    rw [if_neg hq.ne', if_neg hq.le.not_gt, ih fun p hp => h p (List.mem_cons_of_mem q hp)]
    rfl

theorem lookup_eq_none_of_lt (h : ∀ p ∈ l, name < p.1) : l.lookup name = none := by
  rw [List.lookup_eq_none_iff]
  exact fun p hp => by simpa using (h p hp).ne

theorem NamesIncrease.nodup (h : NamesIncrease l) : (l.map Prod.fst).Nodup :=
  (List.pairwise_map.mpr h).imp ne_of_lt

theorem NamesIncrease.mem_iff (h : NamesIncrease l) :
    (name, value) ∈ l ↔ l.lookup name = some value := by
  induction l with
  | nil => simp
  | cons q l ih =>
    obtain ⟨first, old⟩ := q
    obtain ⟨hq, hl⟩ := List.pairwise_cons.mp h
    rw [lookup_entry, List.mem_cons, Prod.mk.injEq, ih hl]
    by_cases hfirst : name = first
    · have hnone : l.lookup first = none := lookup_eq_none_of_lt hq
      simp [hfirst, hnone, eq_comm]
    · simp [hfirst]

/-- Members that are related name by name are related one by one, as they are in the same order. -/
theorem NamesIncrease.forall₂ {β : Type} {R : α → β → Prop} {m : List (String × β)}
    (hl : NamesIncrease l) (hm : NamesIncrease m)
    (h : ∀ name, Option.Rel R (l.lookup name) (m.lookup name)) :
    List.Forall₂ (fun p q => p.1 = q.1 ∧ R p.2 q.2) l m := by
  have hperm : (l.map Prod.fst).Perm (m.map Prod.fst) := by
    refine (List.perm_ext_iff_of_nodup hl.nodup hm.nodup).mpr fun name => ?_
    rw [mem_names_iff, mem_names_iff, ← Option.isSome_iff_exists, ← Option.isSome_iff_exists,
      isSome_eq_of_rel (h name)]
  have hnames : l.map Prod.fst = m.map Prod.fst :=
    hperm.eq_of_pairwise (fun _ _ _ _ hab hba => absurd hba hab.not_gt) (List.pairwise_map.mpr hl)
      (List.pairwise_map.mpr hm)
  refine List.forall₂_iff_get.mpr ⟨by simpa using congrArg List.length hnames, fun i hi hi' => ?_⟩
  have hname : (l.get ⟨i, hi⟩).1 = (m.get ⟨i, hi'⟩).1 := by
    simpa [hi, hi'] using congrArg (fun names => names[i]?) hnames
  have hrel := h (l.get ⟨i, hi⟩).1
  rw [lookup_of_mem hl.nodup (List.get_mem l _), hname, lookup_of_mem hm.nodup (List.get_mem m _),
    Option.rel_some_some] at hrel
  exact ⟨hname, hrel⟩

/-! ### Members in any order -/

theorem foldl_insert_append (name : String) (value : α) :
    (l ++ [(name, value)]).foldl (fun sorted (name, value) => insert name value sorted) [] =
      insert name value (l.foldl (fun sorted (name, value) => insert name value sorted) []) :=
  List.foldl_append

/-- Members that are set one after the other are in order. -/
theorem namesIncrease_foldl_insert (l : List (String × α)) :
    NamesIncrease (l.foldl (fun sorted (name, value) => insert name value sorted) []) := by
  induction l using List.reverseRecOn with
  | nil => exact List.Pairwise.nil
  | append_singleton l member ih =>
    rw [foldl_insert_append]
    exact ih.insert member.1 member.2

theorem mem_of_mem_foldl_insert {p : String × α}
    (h : p ∈ l.foldl (fun sorted (name, value) => insert name value sorted) []) : p ∈ l := by
  induction l using List.reverseRecOn with
  | nil => cases h
  | append_singleton l member ih =>
    rw [foldl_insert_append] at h
    rcases mem_insert h with rfl | h
    · exact List.mem_append_right l List.mem_cons_self
    · exact List.mem_append_left [member] (ih h)

/-- Of the values that are set for one name the last counts. -/
theorem lookup_foldl_insert (l : List (String × α)) (name : String) :
    (l.foldl (fun sorted (name, value) => insert name value sorted) []).lookup name =
      l.reverse.lookup name := by
  induction l using List.reverseRecOn with
  | nil => rfl
  | append_singleton l member ih =>
    rw [foldl_insert_append, lookup_insert, ih, List.reverse_append]
    exact lookup_entry.symm

end Vigil.Json
