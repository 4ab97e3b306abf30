/-! # Looking up names

A name is looked up in a list of entries as the first that has it.

* `lookup_entry`, `lookup_concat`: the first entry, or the last, and the others;
* `mem_of_lookup`, `lookup_of_mem`: what is found is an entry, and an entry is found where no other
  has its name, so that the order does not matter (`lookup_eq_of_perm`);
* `mem_names_iff`: what is found at all;
* `AtMostOnce`: names that are not given twice; for these `lookup_reverse` looks up entries in the other
  order;
* `lookup_filter`: entries of which some are left out by their names. -/

namespace Vigil

variable {α : Type} {name other : String} {value : α} {l : List (String × α)}

theorem lookup_entry : List.lookup other ((name, value) :: l) =
    if other = name then some value else l.lookup other := by
  by_cases h : other = name
  · simp [h]
  · have hname : (other == name) = false := beq_false_of_ne h
    simp [List.lookup_cons, hname, h]

theorem lookup_concat : (l ++ [(name, value)]).lookup other =
    (l.lookup other).or (if other = name then some value else none) := by
  rw [List.lookup_append, lookup_entry, List.lookup_nil]

theorem mem_of_lookup (h : l.lookup name = some value) : (name, value) ∈ l := by
  obtain ⟨before, after, rfl, -⟩ := List.lookup_eq_some_iff.mp h
  exact List.mem_append_right before List.mem_cons_self

theorem lookup_of_mem (hnames : (l.map Prod.fst).Nodup) (h : (name, value) ∈ l) :
    l.lookup name = some value := by
  obtain ⟨before, after, rfl⟩ := List.append_of_mem h
  refine List.lookup_eq_some_iff.mpr ⟨before, after, rfl, fun p hp => ?_⟩
  rw [List.map_append, List.nodup_append] at hnames
  have hne : p.1 ≠ name := hnames.2.2 p.1 (List.mem_map_of_mem hp) name List.mem_cons_self
  exact bne_iff_ne.mpr hne.symm

theorem lookup_eq_some_iff (hnames : (l.map Prod.fst).Nodup) :
    l.lookup name = some value ↔ (name, value) ∈ l :=
  ⟨mem_of_lookup, lookup_of_mem hnames⟩

/-- The order of entries does not matter where no name is given twice. -/
theorem lookup_eq_of_perm {l' : List (String × α)} (hnames : (l.map Prod.fst).Nodup)
    (h : l.Perm l') : l.lookup name = l'.lookup name := by
  have hnames' : (l'.map Prod.fst).Nodup := (h.map Prod.fst).nodup_iff.mp hnames
  ext value
  rw [lookup_eq_some_iff hnames, lookup_eq_some_iff hnames', h.mem_iff]

theorem mem_names_iff : name ∈ l.map Prod.fst ↔ ∃ value, l.lookup name = some value := by
  rw [← Option.isSome_iff_exists, List.lookup_isSome_iff, List.mem_map]
  exact exists_congr fun p => and_congr_right fun _ => by rw [beq_iff_eq, eq_comm]

/-! ### Names that are not given twice -/

/-- Whether each of some names is given at most once. -/
def AtMostOnce (names given : List String) : Prop := ∀ name ∈ names, given.count name ≤ 1

instance (names given : List String) : Decidable (AtMostOnce names given) :=
  inferInstanceAs (Decidable (∀ name ∈ names, given.count name ≤ 1))

theorem AtMostOnce.tail {names given : List String} (h : AtMostOnce names (name :: given)) :
    AtMostOnce names given :=
  fun other hother => Nat.le_trans List.count_le_count_cons (h other hother)

theorem AtMostOnce.not_mem_tail {names given : List String} (h : AtMostOnce names (name :: given))
    (hname : name ∈ names) : name ∉ given := by
  have hcount := h name hname
  rw [List.count_cons_self] at hcount
  exact List.count_eq_zero.mp (by omega)

theorem lookup_reverse (h : (l.map Prod.fst).count name ≤ 1) :
    l.reverse.lookup name = l.lookup name := by
  induction l with
  | nil => rfl
  | cons f l ih =>
    obtain ⟨other, a⟩ := f
    rw [List.map_cons, List.count_cons] at h
    rw [List.reverse_cons, lookup_concat, lookup_entry]
    by_cases hname : name = other
    · have hnone : name ∉ l.map Prod.fst := by
        rw [← List.count_eq_zero]
        simpa [hname] using h
      have hlookup : l.lookup name = none := by
        rw [← Option.not_isSome_iff_eq_none, Option.isSome_iff_exists]
        exact fun hsome => hnone (mem_names_iff.mpr hsome)
      rw [ih (by omega), hlookup, if_pos hname, Option.none_or]
    · rw [ih (by omega), if_neg hname, if_neg hname, Option.or_none]

/-! ### Entries that are left out -/

theorem lookup_filter (p : String → Bool) (l : List (String × α)) (name : String) :
    (l.filter fun f => p f.1).lookup name = if p name then l.lookup name else none := by
  induction l with
  | nil => simp
  | cons f l ih =>
    obtain ⟨other, a⟩ := f
    rw [List.filter_cons]
    by_cases hp : p other = true
    · rw [if_pos hp, lookup_entry, lookup_entry, ih]
      by_cases hname : name = other
      · simp [hname, hp]
      · simp [hname]
    · rw [if_neg hp, ih, lookup_entry]
      by_cases hname : name = other
      · simp [hname, hp]
      · simp [hname]

end Vigil
