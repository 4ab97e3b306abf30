import Mathlib.Data.Finset.Card
import Vigil.Proofs.Coverage.SortedTables
import Vigil.Proofs.Text.Blanks
import Vigil.Proofs.Text.Casing

/-! # What a coverage says

A coverage is built from analytics one after the other. `Groups` is what its tables hold when some
have been added, and every further one keeps it (`Groups.add`).

* `trimmed`, `capitals`: names without the blanks around them, and these in capitals;
* `firstOfEach_append`: an analytic is added once, under its identifier;
* `groups_ofList`: the tables of a whole list;
* `isCoverageOf_ofList`: which analytics are found under a technique and a tactic, and which
  techniques come with a tactic.
-/

namespace Vigil.Coverage

open Vigil.Json (NamesIncrease)
open Vigil.Text (isBlank asciiUpper trim_eq_rdropWhile toUpper_eq_asciiUpper)

variable {c : Coverage} {a b : Analytic} {as bs : List Analytic} {t y : String}

/-! ### Identifiers -/

/-- The first analytic with each identifier, in order. -/
def firstOfEach (as : List Analytic) : List Analytic :=
  as.eraseDupsBy fun a b => a.metadata.id = b.metadata.id

theorem firstOfEach_cons : firstOfEach (a :: as) =
    a :: firstOfEach (as.filter fun b => b.metadata.id ≠ a.metadata.id) := by
  rw [firstOfEach, List.eraseDupsBy_cons]
  simp only [decide_eq_false_iff_not]
  rfl

theorem addOnce_of_exists (h : ∃ b ∈ as, b.metadata.id = a.metadata.id) : addOnce a as = as := by
  have hany : (as.any fun b => b.metadata.id = a.metadata.id) = true := by simpa using h
  rw [addOnce, if_pos hany]

theorem addOnce_of_forall (h : ∀ b ∈ as, b.metadata.id ≠ a.metadata.id) :
    addOnce a as = as ++ [a] := by
  have hany : ¬(as.any fun b => b.metadata.id = a.metadata.id) = true := by simpa using h
  rw [addOnce, if_neg hany]

theorem addOnce_addOnce : addOnce a (addOnce a as) = addOnce a as := by
  by_cases h : ∃ b ∈ as, b.metadata.id = a.metadata.id
  · rw [addOnce_of_exists h, addOnce_of_exists h]
  · push Not at h
    rw [addOnce_of_forall h]
    exact addOnce_of_exists ⟨a, by simp⟩

theorem addOnce_cons (h : b.metadata.id ≠ a.metadata.id) :
    addOnce a (b :: as) = b :: addOnce a as := by
  unfold addOnce
  simp only [List.any_cons, h, decide_false, Bool.false_or, List.cons_append]
  split_ifs <;> rfl

/-- **The last of a list.** It counts unless one before it has its identifier. -/
theorem firstOfEach_append (a : Analytic) : ∀ as : List Analytic,
    firstOfEach (as ++ [a]) = addOnce a (firstOfEach as)
  | [] => rfl
  | b :: as => by
    rw [List.cons_append, firstOfEach_cons, firstOfEach_cons, List.filter_append]
    by_cases h : a.metadata.id = b.metadata.id
    · have hlast : [a].filter (fun d => d.metadata.id ≠ b.metadata.id) = [] := by simp [h]
      rw [hlast, List.append_nil]
      exact (addOnce_of_exists ⟨b, List.mem_cons_self, h.symm⟩).symm
    · have hlast : [a].filter (fun d => d.metadata.id ≠ b.metadata.id) = [a] := by simp [h]
      rw [hlast, firstOfEach_append a (as.filter _), addOnce_cons (Ne.symm h)]
termination_by as => as.length
decreasing_by exact Nat.lt_succ_of_le (List.length_filter_le _ _)

theorem mem_ids_addOnce {u : Uuid} : u ∈ (addOnce a as).map (·.metadata.id) ↔
    u ∈ as.map (·.metadata.id) ∨ u = a.metadata.id := by
  by_cases h : ∃ b ∈ as, b.metadata.id = a.metadata.id
  · rw [addOnce_of_exists h]
    have hmem : a.metadata.id ∈ as.map (·.metadata.id) := List.mem_map.mpr h
    constructor
    · exact Or.inl
    · rintro (hu | rfl)
      · exact hu
      · exact hmem
  · push Not at h
    rw [addOnce_of_forall h, List.map_append, List.mem_append, List.map_singleton,
      List.mem_singleton]

theorem nodup_ids_addOnce (h : (as.map (·.metadata.id)).Nodup) :
    ((addOnce a as).map (·.metadata.id)).Nodup := by
  by_cases hid : ∃ b ∈ as, b.metadata.id = a.metadata.id
  · rwa [addOnce_of_exists hid]
  · push Not at hid
    rw [addOnce_of_forall hid, List.map_append, List.nodup_append']
    refine ⟨h, List.nodup_singleton _, ?_⟩
    simpa [List.Disjoint] using hid

theorem mem_ids_firstOfEach {u : Uuid} :
    u ∈ (firstOfEach as).map (·.metadata.id) ↔ u ∈ as.map (·.metadata.id) := by
  induction as using List.reverseRecOn with
  | nil => rfl
  | append_singleton as a ih =>
    rw [firstOfEach_append, mem_ids_addOnce, ih, List.map_append, List.mem_append,
      List.map_singleton, List.mem_singleton]

theorem nodup_ids_firstOfEach (as : List Analytic) :
    ((firstOfEach as).map (·.metadata.id)).Nodup := by
  induction as using List.reverseRecOn with
  | nil => exact List.nodup_nil
  | append_singleton as a ih =>
    rw [firstOfEach_append]
    exact nodup_ids_addOnce ih

/-- There are as many as there are identifiers. -/
theorem length_firstOfEach (as : List Analytic) :
    (firstOfEach as).length = (as.map (·.metadata.id)).toFinset.card := by
  have hids : ((firstOfEach as).map (·.metadata.id)).toFinset =
      (as.map (·.metadata.id)).toFinset := by
    ext u
    rw [List.mem_toFinset, List.mem_toFinset, mem_ids_firstOfEach]
  rw [← hids, List.toFinset_card_of_nodup (nodup_ids_firstOfEach as), List.length_map]

theorem firstOfEach_eq_nil : firstOfEach as = [] ↔ as = [] := by
  cases as with
  | nil => exact ⟨fun _ => rfl, fun _ => rfl⟩
  | cons a as => simp [firstOfEach_cons]

theorem firstOfEach_eq_self (h : (as.map (·.metadata.id)).Nodup) : firstOfEach as = as := by
  induction as using List.reverseRecOn with
  | nil => rfl
  | append_singleton as a ih =>
    rw [List.map_append, List.nodup_append'] at h
    obtain ⟨has, -, hdisjoint⟩ := h
    rw [firstOfEach_append, ih has]
    refine addOnce_of_forall fun b hb hid => ?_
    exact hdisjoint (List.mem_map.mpr ⟨b, hb, hid⟩) (List.mem_singleton_self _)

/-! ### What is listed -/

/-- A name without the blanks before and after it. -/
def trimmed (s : String) : String :=
  String.ofList ((s.toList.dropWhile isBlank).rdropWhile isBlank)

/-- A name without the blanks before and after it, its ASCII letters in capitals. -/
def capitals (s : String) : String := String.ofList ((trimmed s).toList.map Char.toUpper)

theorem tacticName_eq_trimmed : tacticName = trimmed := by
  funext s
  rw [tacticName, trim_eq_rdropWhile, trimmed]

theorem techniqueName_eq_capitals : techniqueName = capitals := by
  have hupper : Char.toUpper = asciiUpper := funext toUpper_eq_asciiUpper
  funext s
  rw [techniqueName, trim_eq_rdropWhile, capitals, trimmed, hupper, String.toList_ofList]

/-- The techniques that an analytic lists, in capitals. -/
def techniqueNames (a : Analytic) : List String := a.metadata.techniques.map capitals

/-- The tactics that an analytic lists, as they are written. -/
def tacticNames (a : Analytic) : List String := a.metadata.tactics.map trimmed

/-- The analytics that list a technique. -/
def withTechnique (as : List Analytic) (t : String) : List Analytic :=
  as.filter fun a => t ∈ techniqueNames a

/-- The analytics that list a tactic. -/
def withTactic (as : List Analytic) (y : String) : List Analytic :=
  as.filter fun a => y ∈ tacticNames a

/-- The techniques that analytics list, in order. -/
def allTechniques (as : List Analytic) : List String :=
  as.foldl (fun names a => insertAll (techniqueNames a) names) []

theorem allTechniques_append : allTechniques (as ++ [a]) =
    insertAll (techniqueNames a) (allTechniques as) :=
  List.foldl_concat _ _ _ _

theorem mem_allTechniques : t ∈ allTechniques as ↔ ∃ a ∈ as, t ∈ techniqueNames a := by
  induction as using List.reverseRecOn with
  | nil => simp [allTechniques]
  | append_singleton as a ih =>
    rw [allTechniques_append, mem_insertAll, ih]
    simp only [List.mem_append, List.mem_singleton, or_and_right, exists_or, exists_eq_left]
    exact or_comm

theorem pairwise_allTechniques (as : List Analytic) : (allTechniques as).Pairwise (· < ·) := by
  induction as using List.reverseRecOn with
  | nil => exact List.Pairwise.nil
  | append_singleton as a ih =>
    rw [allTechniques_append]
    exact pairwise_insertAll ih _

/-! ### The loop -/

/-- What is in a table of groups: nothing for no analytics. -/
def entry {α : Type} (f : List Analytic → α) (as : List Analytic) : Option α :=
  if as = [] then none else some (f as)

theorem getD_entry {α : Type} {f : List Analytic → α} {d : α} (h : f [] = d) :
    (entry f as).getD d = f as := by
  unfold entry
  split_ifs with has
  · rw [has, h, Option.getD_none]
  · rfl

theorem entry_eq_some {α : Type} {f : List Analytic → α} {v : α} :
    entry f as = some v ↔ as ≠ [] ∧ f as = v := by
  unfold entry
  split_ifs with has
  · simp [has]
  · simp [has]

/-- **What the tables hold** when some analytics have been added. -/
structure Groups (c : Coverage) (as : List Analytic) : Prop where
  techniques_increase : NamesIncrease c.techniques
  tactics_increase : NamesIncrease c.tactics
  matrix_increase : NamesIncrease c.matrix
  techniques : ∀ t, c.techniques.lookup t = entry firstOfEach (withTechnique as t)
  tactics : ∀ y, c.tactics.lookup y = entry firstOfEach (withTactic as y)
  matrix : ∀ y, c.matrix.lookup y = entry allTechniques (withTactic as y)

theorem groups_empty : Groups {} [] where
  techniques_increase := List.Pairwise.nil
  tactics_increase := List.Pairwise.nil
  matrix_increase := List.Pairwise.nil
  techniques _ := rfl
  tactics _ := rfl
  matrix _ := rfl

/-- A table of groups where the same change is made for all names that an analytic lists. -/
theorem lookup_foldl_entry {α : Type} {table : List (String × α)} {change : Option α → α}
    {f : List Analytic → α} (names : Analytic → List String) (h : NamesIncrease table)
    (hlookup : table.lookup y = entry f (as.filter fun a => y ∈ names a))
    (hchange : ∀ as, change (entry f as) = f (as ++ [a]))
    (hagain : ∀ as, change (some (f (as ++ [a]))) = f (as ++ [a])) :
    ((names a).foldl (fun table name => updateSorted name change table) table).lookup y =
      entry f ((as ++ [a]).filter fun a => y ∈ names a) := by
  rw [lookup_foldl_updateSorted h (by rw [hlookup, hchange, hagain]), hlookup, hchange,
    List.filter_append]
  by_cases hy : y ∈ names a
  · have hlast : [a].filter (fun a => y ∈ names a) = [a] := by simp [hy]
    rw [if_pos hy, hlast]
    exact (entry_eq_some.mpr ⟨by simp, rfl⟩).symm
  · have hlast : [a].filter (fun a => y ∈ names a) = [] := by simp [hy]
    rw [if_neg hy, hlast, List.append_nil]

theorem addOnce_entry (as : List Analytic) :
    addOnce a ((entry firstOfEach as).getD []) = firstOfEach (as ++ [a]) := by
  rw [getD_entry (show firstOfEach [] = [] from rfl), firstOfEach_append]

/-- The names under which an analytic is added. -/
theorem add_eq (c : Coverage) (a : Analytic) : c.add a =
    { techniques := (techniqueNames a).foldl (addUnder a) c.techniques
      tactics := (tacticNames a).foldl (addUnder a) c.tactics
      matrix := (tacticNames a).foldl (fun matrix tactic =>
        updateSorted tactic (fun names => insertAll (techniqueNames a) (names.getD [])) matrix)
        c.matrix } := by
  rw [add, techniqueName_eq_capitals, tacticName_eq_trimmed]
  rfl

/-- **One more analytic.** -/
theorem Groups.add (h : c.Groups as) (a : Analytic) : (c.add a).Groups (as ++ [a]) where
  techniques_increase := add_eq c a ▸ namesIncrease_foldl_updateSorted h.techniques_increase _ _
  tactics_increase := add_eq c a ▸ namesIncrease_foldl_updateSorted h.tactics_increase _ _
  matrix_increase := add_eq c a ▸ namesIncrease_foldl_updateSorted h.matrix_increase _ _
  techniques t := by
    rw [add_eq]
    refine lookup_foldl_entry techniqueNames h.techniques_increase (h.techniques t) addOnce_entry ?_
    intro as
    rw [Option.getD_some, firstOfEach_append, addOnce_addOnce]
  tactics y := by
    rw [add_eq]
    refine lookup_foldl_entry tacticNames h.tactics_increase (h.tactics y) addOnce_entry ?_
    intro as
    rw [Option.getD_some, firstOfEach_append, addOnce_addOnce]
  matrix y := by
    rw [add_eq]
    refine lookup_foldl_entry tacticNames h.matrix_increase (h.matrix y) ?_ ?_
    · intro as
      rw [allTechniques_append, ← getD_entry (show allTechniques [] = [] from rfl)]
    · intro as
      rw [Option.getD_some, allTechniques_append]
      exact insertAll_insertAll (pairwise_allTechniques as) _

/-- **The whole loop.** -/
theorem groups_ofList (as : List Analytic) : (ofList as).Groups as := by
  induction as using List.reverseRecOn with
  | nil => exact groups_empty
  | append_singleton as a ih =>
    have hadd : ofList (as ++ [a]) = (ofList as).add a := List.foldl_concat _ _ _ _
    rw [hadd]
    exact ih.add a

/-! ### What is found -/

/-- **What a coverage says** of analytics: under a technique or a tactic those that list it, the
first with each identifier, in order, and for every tactic the techniques that come with it.
Techniques are told apart in capitals, and neither they nor tactics by blanks around them. The tables
are sorted by name. -/
structure IsCoverageOf (c : Coverage) (as : List Analytic) : Prop where
  technique : ∀ x, c.technique x = firstOfEach (withTechnique as (capitals x))
  tactic : ∀ x, c.tactic x = firstOfEach (withTactic as (trimmed x))
  techniques_increase : NamesIncrease c.techniques
  tactics_increase : NamesIncrease c.tactics
  mem_techniques : ∀ t group, (t, group) ∈ c.techniques ↔
    group ≠ [] ∧ firstOfEach (withTechnique as t) = group
  mem_tactics : ∀ y group, (y, group) ∈ c.tactics ↔
    group ≠ [] ∧ firstOfEach (withTactic as y) = group
  matrix_names : c.matrix.map Prod.fst = c.tactics.map Prod.fst
  matrix : ∀ y names, (y, names) ∈ c.matrix → names.Pairwise (· < ·) ∧
    ∀ t, t ∈ names ↔ ∃ a ∈ as, y ∈ tacticNames a ∧ t ∈ techniqueNames a
  mem_summary : ∀ t n, (t, n) ∈ c.summary ↔
    n ≠ 0 ∧ ((withTechnique as t).map (·.metadata.id)).toFinset.card = n

theorem mem_table_iff {table : List (String × List Analytic)} {group : List Analytic}
    (h : NamesIncrease table) (hlookup : table.lookup t = entry firstOfEach as) :
    (t, group) ∈ table ↔ group ≠ [] ∧ firstOfEach as = group := by
  rw [h.mem_iff, hlookup, entry_eq_some]
  constructor
  · rintro ⟨has, rfl⟩
    exact ⟨fun hnil => has (firstOfEach_eq_nil.mp hnil), rfl⟩
  · rintro ⟨hgroup, rfl⟩
    exact ⟨fun has => hgroup (firstOfEach_eq_nil.mpr has), rfl⟩

/-- Tables that hold something under the same names have the same names. -/
theorem map_fst_eq {α β : Type} {table : List (String × α)} {table' : List (String × β)}
    (h : NamesIncrease table) (h' : NamesIncrease table')
    (hsome : ∀ name, (table.lookup name).isSome = (table'.lookup name).isSome) :
    table.map Prod.fst = table'.map Prod.fst := by
  have hmem {γ : Type} {table : List (String × γ)} (h : NamesIncrease table) (name : String) :
      name ∈ table.map Prod.fst ↔ (table.lookup name).isSome = true := by
    simp only [List.mem_map, Prod.exists, exists_and_right, exists_eq_right, h.mem_iff,
      Option.isSome_iff_exists]
  refine List.Pairwise.eq_of_mem_iff (List.pairwise_map.mpr h) (List.pairwise_map.mpr h') ?_
  intro name
  rw [hmem h, hmem h', hsome]

theorem Groups.mem_matrix (h : c.Groups as) {names : List String} : (y, names) ∈ c.matrix ↔
    withTactic as y ≠ [] ∧ allTechniques (withTactic as y) = names := by
  rw [h.matrix_increase.mem_iff, h.matrix, entry_eq_some]

theorem mem_allTechniques_withTactic : t ∈ allTechniques (withTactic as y) ↔
    ∃ a ∈ as, y ∈ tacticNames a ∧ t ∈ techniqueNames a := by
  simp only [mem_allTechniques, withTactic, List.mem_filter, decide_eq_true_eq, and_assoc]

theorem Groups.isCoverageOf (h : c.Groups as) : c.IsCoverageOf as where
  technique x := by
    rw [Coverage.technique, techniqueName_eq_capitals, h.techniques,
      getD_entry (show firstOfEach [] = [] from rfl)]
  tactic x := by
    rw [Coverage.tactic, tacticName_eq_trimmed, h.tactics,
      getD_entry (show firstOfEach [] = [] from rfl)]
  techniques_increase := h.techniques_increase
  tactics_increase := h.tactics_increase
  mem_techniques t _ := mem_table_iff h.techniques_increase (h.techniques t)
  mem_tactics y _ := mem_table_iff h.tactics_increase (h.tactics y)
  matrix_names := by
    refine map_fst_eq h.matrix_increase h.tactics_increase fun y => ?_
    rw [h.matrix, h.tactics, entry, entry]
    split_ifs <;> rfl
  matrix y names hnames := by
    obtain ⟨-, rfl⟩ := h.mem_matrix.mp hnames
    exact ⟨pairwise_allTechniques _, fun t => mem_allTechniques_withTactic⟩
  mem_summary t n := by
    have hsummary : (t, n) ∈ c.summary ↔ ∃ group, (t, group) ∈ c.techniques ∧ group.length = n := by
      simp [summary]
    rw [hsummary, ← length_firstOfEach]
    constructor
    · rintro ⟨group, hgroup, rfl⟩
      obtain ⟨hne, rfl⟩ := (mem_table_iff h.techniques_increase (h.techniques t)).mp hgroup
      exact ⟨fun hlen => hne (List.length_eq_zero_iff.mp hlen), rfl⟩
    · rintro ⟨hn, rfl⟩
      refine ⟨_, (mem_table_iff h.techniques_increase (h.techniques t)).mpr ⟨?_, rfl⟩, rfl⟩
      exact fun hnil => hn (List.length_eq_zero_iff.mpr hnil)

/-- **Order does not matter** for the matrix. -/
theorem matrix_perm (h : as.Perm bs) : (ofList as).matrix = (ofList bs).matrix := by
  have has := groups_ofList as
  have hbs := groups_ofList bs
  refine List.Pairwise.eq_of_mem_iff has.matrix_increase hbs.matrix_increase fun ⟨y, names⟩ => ?_
  have hwith : (withTactic as y).Perm (withTactic bs y) := h.filter _
  have hnames : allTechniques (withTactic as y) = allTechniques (withTactic bs y) := by
    refine List.Pairwise.eq_of_mem_iff (pairwise_allTechniques _) (pairwise_allTechniques _) ?_
    intro t
    simp only [mem_allTechniques, hwith.mem_iff]
  have hnil : withTactic as y = [] ↔ withTactic bs y = [] := by
    rw [← List.length_eq_zero_iff, hwith.length_eq, List.length_eq_zero_iff]
  rw [has.mem_matrix, hbs.mem_matrix, hnames, ne_eq, ne_eq, hnil]

/-- **Order does not matter** for the numbers of analytics. -/
theorem summary_perm (h : as.Perm bs) : (ofList as).summary = (ofList bs).summary := by
  have hincrease (cs : List Analytic) : NamesIncrease (ofList cs).summary :=
    List.pairwise_map.mpr (groups_ofList cs).techniques_increase
  refine List.Pairwise.eq_of_mem_iff (hincrease as) (hincrease bs) fun ⟨t, n⟩ => ?_
  have hids : ((withTechnique as t).map (·.metadata.id)).Perm
      ((withTechnique bs t).map (·.metadata.id)) := (h.filter _).map _
  rw [(groups_ofList as).isCoverageOf.mem_summary, (groups_ofList bs).isCoverageOf.mem_summary,
    List.toFinset_eq_of_perm _ _ hids]

/-- **What is found** in the coverage of a list of analytics. The matrix and the numbers do not
depend on the order of the analytics; and where no identifier repeats, a technique comes with a
tactic if some analytic is found under both. -/
theorem isCoverageOf_ofList (as : List Analytic) : (ofList as).IsCoverageOf as ∧
    (∀ bs, as.Perm bs →
      (ofList as).matrix = (ofList bs).matrix ∧ (ofList as).summary = (ofList bs).summary) ∧
    ((as.map (·.metadata.id)).Nodup → ∀ x y,
      (∃ names, (trimmed y, names) ∈ (ofList as).matrix ∧ capitals x ∈ names) ↔
        ∃ a, a ∈ (ofList as).technique x ∧ a ∈ (ofList as).tactic y) := by
  have hgroups : (ofList as).Groups as := groups_ofList as
  have hcoverage : (ofList as).IsCoverageOf as := hgroups.isCoverageOf
  refine ⟨hcoverage, fun bs h => ⟨matrix_perm h, summary_perm h⟩, fun hids x y => ?_⟩
  have hself (p : Analytic → Bool) : firstOfEach (as.filter p) = as.filter p :=
    firstOfEach_eq_self ((List.filter_sublist.map _).nodup hids)
  rw [hcoverage.technique, hcoverage.tactic, withTechnique, withTactic, hself, hself]
  simp only [List.mem_filter, decide_eq_true_eq]
  constructor
  · rintro ⟨names, hnames, hx⟩
    obtain ⟨a, ha, hy, hx⟩ := ((hcoverage.matrix _ _ hnames).2 _).mp hx
    exact ⟨a, ⟨ha, hx⟩, ha, hy⟩
  · rintro ⟨a, ⟨ha, hx⟩, -, hy⟩
    have hne : withTactic as (trimmed y) ≠ [] :=
      List.ne_nil_of_mem (List.mem_filter.mpr ⟨ha, by simpa using hy⟩)
    exact ⟨_, hgroups.mem_matrix.mpr ⟨hne, rfl⟩, mem_allTechniques_withTactic.mpr ⟨a, ha, hy, hx⟩⟩

/-- An analytic for every process, with the same digit everywhere in its identifier. -/
def everyProcess (digit : Fin 16) (tactics techniques : List String) : Analytic where
  metadata :=
    { id := ⟨List.replicate 32 digit, by simp⟩, name := "", tactics := tactics,
      techniques := techniques }
  query := ⟨"process where true", some "process", .constant true⟩

/-- Two analytics that spell a technique differently; one of them lists a second tactic, and the other
a second technique. -/
theorem isCoverageOf_ofList_spellings :
    let a := everyProcess 1 ["Execution", " Impact"] ["T1035"]
    let b := everyProcess 2 ["Execution"] ["t1035 ", "T1055"]
    capitals " t1035" = "T1035" ∧ trimmed "Impact " = "Impact" ∧
    (ofList [a, b]).technique " t1035" = [a, b] ∧ (ofList [a, b]).technique "T1055" = [b] ∧
    (ofList [a, b]).tactic "Impact " = [a] ∧
    (ofList [b, a]).matrix = [("Execution", ["T1035", "T1055"]), ("Impact", ["T1035"])] ∧
    (ofList [b, a]).summary = [("T1035", 2), ("T1055", 1)] ∧
    ∃ d, d ∈ (ofList [a, b]).technique " t1035" ∧ d ∈ (ofList [a, b]).tactic "Impact " := by
  intro a b
  obtain ⟨hcoverage, hperm, hshared⟩ := isCoverageOf_ofList [a, b]
  obtain ⟨hmatrix, hsummary⟩ := hperm [b, a] (List.Perm.swap b a [])
  have hids : ([a, b].map (·.metadata.id)).Nodup := by decide
  have hpairs : (ofList [a, b]).matrix =
      [("Execution", ["T1035", "T1055"]), ("Impact", ["T1035"])] := by decide +kernel
  have hnumbers : (ofList [a, b]).summary = [("T1035", 2), ("T1055", 1)] := by decide +kernel
  have hname : capitals " t1035" = "T1035" := by decide
  have hother : capitals "T1055" = "T1055" := by decide
  have htactic : trimmed "Impact " = "Impact" := by decide
  have ha : techniqueNames a = ["T1035"] := by decide
  have hb : techniqueNames b = ["T1035", "T1055"] := by decide
  have ha' : tacticNames a = ["Execution", "Impact"] := by decide
  have hb' : tacticNames b = ["Execution"] := by decide
  have hself (p : Analytic → Bool) : firstOfEach ([a, b].filter p) = [a, b].filter p :=
    firstOfEach_eq_self ((List.filter_sublist.map _).nodup hids)
  refine ⟨hname, htactic, ?_, ?_, ?_, hmatrix ▸ hpairs, hsummary ▸ hnumbers,
    (hshared hids _ _).mp ⟨["T1035"], ?_, ?_⟩⟩
  · rw [hcoverage.technique, hname, withTechnique, hself]
    simp [ha, hb]
  · rw [hcoverage.technique, withTechnique, hself]
    simp [ha, hb, hother]
  · rw [hcoverage.tactic, htactic, withTactic, hself]
    simp [ha', hb']
  · rw [htactic, hpairs]
    exact List.mem_cons_of_mem _ List.mem_cons_self
  · rw [hname]
    exact List.mem_singleton_self _

end Vigil.Coverage
