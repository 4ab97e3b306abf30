import Std.Data.HashSet.Lemmas
import Vigil.Proofs.Pattern.Matching

/-! # Places that are reached

`Node.reach` keeps lists of places and never tries a way of matching twice. Here is what it amounts
to:

* `Leads step M text`: from places of the text, `step` reaches just those that spans of `M` lead
  to. The steps of an expression are put together from others, and so is what they match:
  `leads_times`, `leads_upTo`, `leads_closure`, `leads_afterMany`;
* `leads_reach`: an expression reaches the ends of its spans;
* `occursIn_iff`: an expression occurs in a text just if it matches some part of it. -/

namespace Vigil.Pattern

open Matching

namespace Places

/-- All places are in a text of the given length. -/
def Within (m : Places) (length : Nat) : Prop := ∀ i ∈ m, i ≤ length

/-- **What a step does**: from places of the text it reaches those that spans of `M` lead to. -/
def Leads (step : Places → Places) (M : Matching) (text : List Char) : Prop :=
  ∀ m : Places, m.Within text.length → ∀ j, j ∈ step m ↔ ∃ i ∈ m, M.Spans text i j

variable {step next : Places → Places} {M N : Matching} {text : List Char} {m n : Places}

theorem Leads.within (h : Leads step M text) (hm : m.Within text.length) :
    (step m).Within text.length := by
  intro j hj
  obtain ⟨i, -, hij⟩ := (h m hm j).mp hj
  exact hij.le_length

theorem Leads.then (h : Leads step M text) (hnext : Leads next N text) :
    Leads (fun m => next (step m)) (M.followedBy N) text := by
  intro m hm j
  rw [hnext _ (h.within hm)]
  simp only [h m hm, spans_followedBy]
  constructor
  · rintro ⟨k, ⟨i, hi, hik⟩, hkj⟩
    exact ⟨i, hi, k, hik, hkj⟩
  · rintro ⟨i, hi, k, hik, hkj⟩
    exact ⟨k, ⟨i, hi, hik⟩, hkj⟩

theorem leads_id : Leads id nothing text := by
  intro m hm j
  simp only [id_eq, spans_nothing]
  constructor
  · intro hj
    exact ⟨j, hj, hm j hj, rfl⟩
  · rintro ⟨_, hj, -, rfl⟩
    exact hj

theorem leads_afterOne (s : CharClass) :
    Leads (afterOne s text.toArray) (Node.set s).matching text := by
  intro m _ j
  simp only [afterOne, List.mem_map, List.mem_filter, List.getElem?_toArray, Option.any_eq_true,
    spans_set]
  constructor
  · rintro ⟨i, ⟨hi, hc⟩, rfl⟩
    exact ⟨i, hi, rfl, hc⟩
  · rintro ⟨i, hi, rfl, hc⟩
    exact ⟨i, ⟨hi, hc⟩, rfl⟩

theorem mem_union {j : Nat} : j ∈ m.union n ↔ j ∈ m ∨ j ∈ n := by
  rcases m with _ | ⟨a, m⟩
  · simp [union]
  · rcases n with _ | ⟨b, n⟩
    · simp [union]
    · simp only [union, List.mem_append, List.mem_filter, Bool.not_eq_true',
        Std.HashSet.contains_eq_false_iff_not_mem, Std.HashSet.mem_ofList, List.contains_iff_mem]
      tauto

/-! ### Repeated steps -/

theorem leads_times (h : Leads step M text) (n : Nat) :
    Leads (times step n) (M.repeated n) text := by
  induction n with
  | zero => exact leads_id
  | succ n ih =>
    intro m hm j
    rcases m with _ | ⟨a, m⟩
    · simp [times]
    · exact h.then ih (a :: m) hm j

theorem leads_upTo (h : Leads step M text) (n : Nat) :
    Leads (upTo step n) (M.times (· ≤ n)) text := by
  induction n with
  | zero =>
    intro m hm j
    simp only [spans_times, Nat.le_zero, exists_eq_left]
    exact leads_times h 0 m hm j
  | succ n ih =>
    intro m hm j
    rcases m with _ | ⟨a, m⟩
    · simp [upTo]
    · have hmore := h.then ih (a :: m) hm j
      have hnone := leads_times h 0 (a :: m) hm j
      simp only [spans_followedBy, spans_times] at hmore
      simp only [times] at hnone
      simp only [upTo, List.isEmpty_cons, Bool.false_eq_true, if_false, mem_union, hmore, hnone,
        spans_times]
      constructor
      · rintro (⟨i, hi, hij⟩ | ⟨i, hi, k, hik, l, hl, hkj⟩)
        · exact ⟨i, hi, 0, Nat.zero_le _, hij⟩
        · exact ⟨i, hi, l + 1, by omega, spans_repeated_succ.mpr ⟨k, hik, hkj⟩⟩
      · rintro ⟨i, hi, l, hl, hij⟩
        rcases l with _ | l
        · exact Or.inl ⟨i, hi, hij⟩
        · obtain ⟨k, hik, hkj⟩ := spans_repeated_succ.mp hij
          exact Or.inr ⟨i, hi, k, hik, l, by omega, hkj⟩

/-! ### Steps any number of times

Places that are closed under the spans of `M` hold all that can be reached from them. -/

/-- No span of `M` leads out of the places. -/
def Closed (M : Matching) (text : List Char) (reached : Std.HashSet Nat) : Prop :=
  ∀ i ∈ reached, ∀ j, M.Spans text i j → j ∈ reached

theorem Closed.mem_of_spans {reached : Std.HashSet Nat} (h : Closed M text reached) {l i j : Nat}
    (hi : i ∈ reached) (hij : (M.repeated l).Spans text i j) : j ∈ reached := by
  induction l generalizing i with
  | zero =>
    obtain ⟨-, rfl⟩ := spans_repeated_zero.mp hij
    exact hi
  | succ l ih =>
    obtain ⟨k, hik, hkj⟩ := spans_repeated_succ.mp hij
    exact ih (h i hi k hik) hkj

/-- All places are reached from `m`. -/
def ReachedFrom (M : Matching) (text : List Char) (m : Places) (reached : Std.HashSet Nat) : Prop :=
  ∀ j ∈ reached, ∃ i ∈ m, (M.times fun _ => True).Spans text i j

/-- Closed places that hold `m` and are reached from it are all that are reached from it. -/
theorem mem_toList_iff {reached : Std.HashSet Nat} (hclosed : Closed M text reached)
    (hm : ∀ i ∈ m, i ∈ reached) (hfrom : ReachedFrom M text m reached) (j : Nat) :
    j ∈ reached.toList ↔ ∃ i ∈ m, (M.times fun _ => True).Spans text i j := by
  rw [Std.HashSet.mem_toList]
  constructor
  · exact hfrom j
  · rintro ⟨i, hi, hij⟩
    obtain ⟨l, -, hij⟩ := spans_times.mp hij
    exact hclosed.mem_of_spans (hm i hi) hij

theorem spans_times_refl {i : Nat} (hi : i ≤ text.length) :
    (M.times fun _ => True).Spans text i i :=
  spans_times.mpr ⟨0, trivial, spans_repeated_zero.mpr ⟨hi, rfl⟩⟩

theorem spans_times_tail {i j k : Nat} (hij : (M.times fun _ => True).Spans text i j)
    (hjk : M.Spans text j k) : (M.times fun _ => True).Spans text i k := by
  obtain ⟨l, -, hij⟩ := spans_times.mp hij
  have hlast : (M.repeated 1).Spans text j k :=
    spans_repeated_succ.mpr ⟨k, hjk, spans_repeated_zero.mpr ⟨hjk.le_length, rfl⟩⟩
  exact spans_times.mpr ⟨l + 1, trivial, spans_repeated_add.mpr ⟨j, hij, hlast⟩⟩

/-- **Places before `k` have been looked at**: the places of `m` are there, others are reached from
them, and no span of `M` leads out from a place before `k`. -/
structure Explored (M : Matching) (text : List Char) (m : Places) (k : Nat)
    (reached : Std.HashSet Nat) : Prop where
  start : ∀ i ∈ m, i ∈ reached
  reachedFrom : ReachedFrom M text m reached
  closed : ∀ i ∈ reached, i < k → ∀ j, M.Spans text i j → j ∈ reached

theorem explored_zero (hm : m.Within text.length) :
    Explored M text m 0 (Std.HashSet.ofList m) where
  start i hi := by simpa using hi
  reachedFrom i hi := by
    have hi : i ∈ m := by simpa using hi
    exact ⟨i, hi, spans_times_refl (hm i hi)⟩
  closed i _ h := absurd h (Nat.not_lt_zero i)

/-- Looking at one more place; spans from it do not lead back, so that earlier places stay as they
are. -/
theorem Explored.succ (h : Leads step M text) {k : Nat} {reached : Std.HashSet Nat}
    (hk : k ≤ text.length) (hr : Explored M text m k reached) :
    Explored M text m (k + 1)
      (if reached.contains k then reached.insertMany (step [k]) else reached) := by
  have hstep : ∀ j, j ∈ step [k] ↔ M.Spans text k j := by
    intro j
    simp [h [k] (by simpa [Within] using hk)]
  split
  · next hmem =>
    rw [Std.HashSet.contains_iff_mem] at hmem
    refine ⟨fun i hi => ?_, fun j hj => ?_, fun i hi hik j hij => ?_⟩
    · exact Std.HashSet.mem_insertMany_of_mem (hr.start i hi)
    · rw [Std.HashSet.mem_insertMany_list, List.contains_iff_mem, hstep] at hj
      rcases hj with hj | hj
      · exact hr.reachedFrom j hj
      · obtain ⟨i, hi, hik⟩ := hr.reachedFrom k hmem
        exact ⟨i, hi, spans_times_tail hik hj⟩
    · rw [Std.HashSet.mem_insertMany_list, List.contains_iff_mem, hstep] at hi ⊢
      rcases Nat.lt_or_eq_of_le (Nat.lt_succ_iff.mp hik) with hlt | rfl
      · rcases hi with hi | hi
        · exact Or.inl (hr.closed i hi hlt j hij)
        · exact absurd hi.le (by omega)
      · exact Or.inr hij
  · next hmem =>
    rw [Std.HashSet.contains_iff_mem] at hmem
    refine ⟨hr.start, hr.reachedFrom, fun i hi hik j hij => ?_⟩
    rcases Nat.lt_or_eq_of_le (Nat.lt_succ_iff.mp hik) with hlt | rfl
    · exact hr.closed i hi hlt j hij
    · exact absurd hi hmem

theorem explored_range (h : Leads step M text) (hm : m.Within text.length) {k : Nat}
    (hk : k ≤ text.length + 1) :
    Explored M text m k ((List.range k).foldl (fun reached place =>
      if reached.contains place then reached.insertMany (step [place]) else reached)
      (Std.HashSet.ofList m)) := by
  induction k with
  | zero => exact explored_zero hm
  | succ k ih =>
    rw [List.range_succ, List.foldl_append]
    exact (ih (by omega)).succ h (by omega)

theorem leads_closure (h : Leads step M text) :
    Leads (closure step text.length) (M.times fun _ => True) text := by
  intro m hm j
  have hlast := explored_range h hm le_rfl
  refine mem_toList_iff (fun i hi j hij => ?_) hlast.start hlast.reachedFrom j
  have hle := hij.le
  have hlength := hij.le_length
  exact hlast.closed i hi (by omega) j hij

/-! ### Runs of a class -/

/-- No span of `M` leads out of the places, except to the place `k`. -/
def ClosedUpTo (M : Matching) (text : List Char) (k : Nat) (reached : Std.HashSet Nat) : Prop :=
  ∀ i ∈ reached, ∀ j, M.Spans text i j → j ∈ reached ∨ j = k

/-- With the missing place added, only spans from this lead out. -/
theorem ClosedUpTo.insert {reached : Std.HashSet Nat} {k i j : Nat}
    (h : ClosedUpTo M text k reached) (hi : i ∈ reached.insert k) (hij : M.Spans text i j) :
    j ∈ reached.insert k ∨ i = k := by
  rcases Std.HashSet.mem_insert.mp hi with hi | hi
  · exact Or.inr (eq_of_beq hi).symm
  · rcases h i hi j hij with hj | rfl
    · exact Or.inl (Std.HashSet.mem_insert.mpr (Or.inr hj))
    · exact Or.inl Std.HashSet.mem_insert_self

/-- **Adding a run** keeps places closed, if no more than the beginning of the run is missing at
first. -/
theorem addRun_closed {s : CharClass} {reached : Std.HashSet Nat} {place : Nat}
    (hclosed : ClosedUpTo (Node.set s).matching text place reached) :
    Closed (Node.set s).matching text (addRun s text.toArray reached place) := by
  fun_induction addRun s text.toArray reached place with
  | case1 reached place hmem =>
    intro i hi j hij
    rcases hclosed i hi j hij with hj | rfl
    · exact hj
    · exact Std.HashSet.contains_iff_mem.mp hmem
  | case2 reached place hmem hlt hc ih =>
    refine ih fun i hi j hij => ?_
    rcases hclosed.insert hi hij with hj | rfl
    · exact Or.inl hj
    · exact Or.inr (spans_set.mp hij).1
  | case3 reached place hmem hlt hc =>
    intro i hi j hij
    rcases hclosed.insert hi hij with hj | rfl
    · exact hj
    · obtain ⟨-, c, hget, hcontains⟩ := spans_set.mp hij
      rw [List.getElem?_eq_getElem (by simpa using hlt), Option.some.injEq] at hget
      rw [List.getElem_toArray, hget] at hc
      exact absurd hcontains hc
  | case4 reached place hmem hlt =>
    intro i hi j hij
    rcases hclosed.insert hi hij with hj | rfl
    · exact hj
    · have hlength := hij.le_length
      have hnext := (spans_set.mp hij).1
      rw [List.size_toArray] at hlt
      omega

theorem mem_addRun {s : CharClass} {reached : Std.HashSet Nat} {place : Nat} :
    place ∈ addRun s text.toArray reached place ∧
      ∀ i ∈ reached, i ∈ addRun s text.toArray reached place := by
  fun_induction addRun s text.toArray reached place with
  | case1 reached place hmem => exact ⟨Std.HashSet.contains_iff_mem.mp hmem, fun i hi => hi⟩
  | case2 reached place hmem hlt hc ih =>
    exact ⟨ih.2 place Std.HashSet.mem_insert_self,
      fun i hi => ih.2 i (Std.HashSet.mem_insert.mpr (Or.inr hi))⟩
  | case3 reached place hmem hlt hc =>
    exact ⟨Std.HashSet.mem_insert_self, fun i hi => Std.HashSet.mem_insert.mpr (Or.inr hi)⟩
  | case4 reached place hmem hlt =>
    exact ⟨Std.HashSet.mem_insert_self, fun i hi => Std.HashSet.mem_insert.mpr (Or.inr hi)⟩

theorem reachedFrom_insert {reached : Std.HashSet Nat} {place : Nat}
    (hfrom : ReachedFrom M text m reached)
    (hplace : ∃ i ∈ m, (M.times fun _ => True).Spans text i place) :
    ReachedFrom M text m (reached.insert place) := by
  intro j hj
  rcases Std.HashSet.mem_insert.mp hj with hj | hj
  · rw [← eq_of_beq hj]
    exact hplace
  · exact hfrom j hj

theorem reachedFrom_addRun {s : CharClass} {reached : Std.HashSet Nat} {place : Nat}
    (hfrom : ReachedFrom (Node.set s).matching text m reached)
    (hplace : ∃ i ∈ m, ((Node.set s).matching.times fun _ => True).Spans text i place) :
    ReachedFrom (Node.set s).matching text m (addRun s text.toArray reached place) := by
  fun_induction addRun s text.toArray reached place with
  | case1 reached place hmem => exact hfrom
  | case2 reached place hmem hlt hc ih =>
    refine ih (reachedFrom_insert hfrom hplace) ?_
    obtain ⟨i, hi, hip⟩ := hplace
    have hnext : (Node.set s).matching.Spans text place (place + 1) :=
      spans_set.mpr ⟨rfl, text[place], by simp, by simpa using hc⟩
    exact ⟨i, hi, spans_times_tail hip hnext⟩
  | case3 reached place hmem hlt hc => exact reachedFrom_insert hfrom hplace
  | case4 reached place hmem hlt => exact reachedFrom_insert hfrom hplace

/-- Runs from the places of `l`, added one after the other to places that are closed already. -/
theorem foldl_addRun {s : CharClass} (hm : m.Within text.length) {l : Places} (hl : ∀ i ∈ l, i ∈ m)
    {reached : Std.HashSet Nat} (hclosed : Closed (Node.set s).matching text reached)
    (hfrom : ReachedFrom (Node.set s).matching text m reached) :
    Closed (Node.set s).matching text (l.foldl (addRun s text.toArray) reached) ∧
      ReachedFrom (Node.set s).matching text m (l.foldl (addRun s text.toArray) reached) ∧
      ∀ i, i ∈ l ∨ i ∈ reached → i ∈ l.foldl (addRun s text.toArray) reached := by
  induction l generalizing reached with
  | nil =>
    refine ⟨hclosed, hfrom, ?_⟩
    rintro i (hi | hi)
    · exact absurd hi List.not_mem_nil
    · exact hi
  | cons place l ih =>
    have hplace : place ∈ m := hl place List.mem_cons_self
    have htail : ∀ i ∈ l, i ∈ m := fun i hi => hl i (List.mem_cons_of_mem place hi)
    have hclosed' : Closed (Node.set s).matching text (addRun s text.toArray reached place) :=
      addRun_closed fun i hi j hij => Or.inl (hclosed i hi j hij)
    have hfrom' := reachedFrom_addRun hfrom ⟨place, hplace, spans_times_refl (hm place hplace)⟩
    obtain ⟨hall, hallFrom, hmem⟩ := ih htail hclosed' hfrom'
    refine ⟨hall, hallFrom, ?_⟩
    rintro i (hi | hi)
    · rcases List.mem_cons.mp hi with rfl | hi
      · exact hmem i (Or.inr mem_addRun.1)
      · exact hmem i (Or.inl hi)
    · exact hmem i (Or.inr (mem_addRun.2 i hi))

theorem leads_afterMany (s : CharClass) : Leads (afterMany s text.toArray)
    ((Node.set s).matching.times fun _ => True) text := by
  intro m hm j
  have hclosed : Closed (Node.set s).matching text ∅ := fun i hi =>
    absurd hi Std.HashSet.not_mem_empty
  have hfrom : ReachedFrom (Node.set s).matching text m ∅ := fun i hi =>
    absurd hi Std.HashSet.not_mem_empty
  obtain ⟨hall, hallFrom, hmem⟩ := foldl_addRun hm (fun i hi => hi) hclosed hfrom
  exact mem_toList_iff hall (fun i hi => hmem i (Or.inl hi)) hallFrom j

end Places

/-! ### Expressions -/

namespace Node

open Places

variable {text : List Char}

theorem leads_repetition {a : Node} {step : Places → Places} {next : Places → Places}
    {P : Nat → Prop} (least : Nat) (most : Option Nat) (greedy : Bool)
    (h : Leads step a.matching text) (hnext : Leads next (a.matching.times P) text)
    (hP : ∀ n, P n ↔ ∀ k ∈ most, least + n ≤ max least k) :
    Leads (fun m => next (times step least m)) (repetition a least most greedy).matching text := by
  intro m hm j
  rw [(leads_times h least).then hnext m hm]
  simp only [matching, spans_followedBy, spans_times]
  constructor
  · rintro ⟨i, hi, k, hik, n, hn, hkj⟩
    exact ⟨i, hi, least + n, ⟨by omega, (hP n).mp hn⟩, spans_repeated_add.mpr ⟨k, hik, hkj⟩⟩
  · rintro ⟨i, hi, n, ⟨hleast, hmost⟩, hij⟩
    obtain ⟨n, rfl⟩ := Nat.exists_eq_add_of_le hleast
    obtain ⟨k, hik, hkj⟩ := spans_repeated_add.mp hij
    exact ⟨i, hi, k, hik, n, (hP n).mpr hmost, hkj⟩

/-- **An expression reaches the ends of its spans.** -/
theorem leads_reach (n : Node) : Leads (n.reach text.toArray) n.matching text := by
  induction n with
  | empty => exact leads_id
  | set s => exact leads_afterOne s
  | assertion a =>
    intro m hm j
    simp only [reach, List.mem_filter, spans_assertion]
    constructor
    · rintro ⟨hj, ha⟩
      exact ⟨j, hj, rfl, hm j hj, ha⟩
    · rintro ⟨_, hj, rfl, -, ha⟩
      exact ⟨hj, ha⟩
  | sequence a b iha ihb => exact iha.then ihb
  | choice a b iha ihb =>
    intro m hm j
    simp only [reach, mem_union, iha m hm j, ihb m hm j, spans_choice]
    constructor
    · rintro (⟨i, hi, hij⟩ | ⟨i, hi, hij⟩)
      · exact ⟨i, hi, Or.inl hij⟩
      · exact ⟨i, hi, Or.inr hij⟩
    · rintro ⟨i, hi, hij | hij⟩
      · exact Or.inl ⟨i, hi, hij⟩
      · exact Or.inr ⟨i, hi, hij⟩
  | group _ a ih => exact ih
  | repetition a least most greedy ih =>
    rcases most with _ | most
    · have hclosure := leads_repetition least none greedy ih (leads_closure ih) (by simp)
      cases a with
      | set s =>
        exact leads_repetition least none greedy (leads_afterOne s) (leads_afterMany s) (by simp)
      | _ => exact hclosure
    · intro m hm j
      rw [reach]
      refine leads_repetition least (some most) greedy ih (leads_upTo ih (most - least)) ?_ m hm j
      intro n
      simp only [Option.mem_def, Option.some.injEq, forall_eq']
      omega

/-- **An expression occurs in a text** just if it matches some part of it. -/
theorem occursIn_iff {n : Node} : n.occursIn text ↔
    ∃ before w after, text = before ++ w ++ after ∧ n.matching before w after := by
  have hleads : Leads (n.reach text.toArray) n.matching text := leads_reach n
  have hreach := hleads (List.range (text.length + 1))
    (fun i hi => Nat.lt_succ_iff.mp (List.mem_range.mp hi))
  rw [occursIn, Bool.not_eq_true', List.isEmpty_eq_false_iff_exists_mem]
  constructor
  · rintro ⟨j, hj⟩
    obtain ⟨i, -, before, w, after, htext, -, -, hw⟩ := (hreach j).mp hj
    exact ⟨before, w, after, htext, hw⟩
  · rintro ⟨before, w, after, htext, hw⟩
    have hspan : n.matching.Spans text before.length (before.length + w.length) :=
      ⟨before, w, after, htext, rfl, rfl, hw⟩
    have hle := hspan.le.trans hspan.le_length
    exact ⟨_, (hreach _).mpr ⟨_, List.mem_range.mpr (by omega), hspan⟩⟩

end Node

end Vigil.Pattern
