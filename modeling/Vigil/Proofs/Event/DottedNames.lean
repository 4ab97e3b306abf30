import Mathlib.Data.List.TakeWhile
import Vigil.Proofs.Event.Fields

/-! # Names with dots

The dots of a name separate its segments. Some of them, from the first on, name records, each in the
one before (`Descends`), and what is left of the name stands there as it is: the name resolves after
so many segments (`ResolvesAt`). Where there are several ways, the fewest segments count.

* `splitAtFirstDot_eq_some`, `intercalate_segmentsOf`: the parts of a name;
* `find?_dotted`, `find?_intercalate_cons`: a name is read as it stands, or else below its first
  segment;
* `find?_eq_lookupDotted`: so reading it is a recursion over its dots;
* `find?_of_resolvesAt`, `exists_resolvesAt`: a name has the value to which it resolves after the
  fewest segments;
* `find?_resolves_shallowest`: all of this for every name. -/

namespace Vigil.Event

variable {e : Event} {fields inner : Fields} {s head tail name : String} {segments : List String}
  {cs : List Char} {i : Nat} {v : Value}

/-! ### The first dot -/

/-- A name split at its first dot, if it has one. -/
def splitAtFirstDot (name : String) : Option (String × String) :=
  match name.toList.dropWhile (· != '.') with
  | [] => none
  | _ :: tail => some (String.ofList (name.toList.takeWhile (· != '.')), String.ofList tail)

theorem splitAtFirstDot_eq_some (h : splitAtFirstDot name = some (head, tail)) :
    name = head ++ "." ++ tail ∧ '.' ∉ head.toList := by
  unfold splitAtFirstDot at h
  split at h
  case h_1 => cases h
  case h_2 c cs hdrop =>
    cases h
    have hdot : c = '.' := by
      have hhead := List.head?_dropWhile_not (· != '.') name.toList
      simpa [hdrop] using hhead
    have hname : name.toList.takeWhile (· != '.') ++ '.' :: cs = name.toList := by
      rw [hdot] at hdrop
      rw [← hdrop, List.takeWhile_append_dropWhile]
    constructor
    · rw [← String.toList_inj]
      simp [hname]
    · rw [String.toList_ofList]
      intro hmem
      simpa using List.mem_takeWhile_imp hmem

theorem splitAtFirstDot_eq_none (h : splitAtFirstDot name = none) : '.' ∉ name.toList := by
  unfold splitAtFirstDot at h
  split at h
  case h_1 hdrop =>
    intro hmem
    simpa using List.dropWhile_eq_nil_iff.mp hdrop '.' hmem
  case h_2 => cases h

theorem length_lt_of_splitAtFirstDot (h : splitAtFirstDot name = some (head, tail)) :
    tail.length < name.length := by
  obtain ⟨rfl, -⟩ := splitAtFirstDot_eq_some h
  have hdot : ".".length = 1 := rfl
  rw [String.length_append, String.length_append, hdot]
  omega

/-- Looks a name up as it stands; or else what follows its first dot, in the record that the part
before the dot names. -/
def lookupDotted (fields : Fields) (name : String) : Option Value :=
  match fields.lookup name with
  | some v => some v
  | none =>
    match _ : splitAtFirstDot name with
    | none => none
    | some (head, tail) =>
      match fields.lookup head with
      | some (.record inner) => lookupDotted inner tail
      | _ => none
termination_by name.length
decreasing_by exact length_lt_of_splitAtFirstDot ‹_›

/-- What a name leads to in the record that a field holds. -/
def findIn? (e : Event) (field name : String) : Option Value :=
  match e.fields.lookup field with
  | some (.record inner) => find? ⟨inner⟩ name
  | _ => none

theorem descend_append (hcs : '.' ∉ cs) (before rest : List Char) :
    descend fields before (cs ++ '.' :: rest) =
      findIn? ⟨fields⟩ (String.ofList (before.reverse ++ cs)) (String.ofList rest) := by
  induction cs generalizing before with
  | nil =>
    rw [List.nil_append, List.append_nil, descend, if_pos rfl, findIn?]
    rcases fields.lookup (String.ofList before.reverse) with _ | (_ | _ | inner)
    · rfl
    · rfl
    · rfl
    · rcases hlookup : inner.lookup (String.ofList rest) with _ | v
      · have hfind := find?_of_lookup_none (e := ⟨inner⟩) hlookup
        simp only [hlookup, hfind, String.toList_ofList]
      · have hfind := find?_of_lookup (e := ⟨inner⟩) hlookup
        simp only [hlookup, hfind]
  | cons c cs ih =>
    have hc : c ≠ '.' := fun hc => hcs (hc ▸ List.mem_cons_self)
    rw [List.cons_append, descend, if_neg hc, ih fun hmem => hcs (List.mem_cons_of_mem c hmem)]
    simp

theorem find?_dotted (e : Event) (hhead : '.' ∉ head.toList) (tail : String) :
    e.find? (head ++ "." ++ tail) =
      (e.fields.lookup (head ++ "." ++ tail)).or (e.findIn? head tail) := by
  have hchars : (head ++ "." ++ tail).toList = head.toList ++ '.' :: tail.toList := by simp
  rcases hlookup : e.fields.lookup (head ++ "." ++ tail) with _ | v
  · rw [find?_of_lookup_none hlookup, hchars, descend_append hhead, Option.none_or]
    simp
  · exact find?_of_lookup hlookup

/-- Reading a name is the recursion over its dots. -/
theorem find?_eq_lookupDotted (e : Event) (name : String) :
    e.find? name = lookupDotted e.fields name := by
  obtain ⟨fields⟩ := e
  show find? ⟨fields⟩ name = lookupDotted fields name
  fun_induction lookupDotted fields name with
  | case1 fields name v hlookup => exact find?_of_lookup hlookup
  | case2 fields name hlookup hsplit =>
    rw [find?_of_no_dot _ (splitAtFirstDot_eq_none hsplit), hlookup]
  | case3 fields name hlookup head tail hsplit inner hinner ih =>
    obtain ⟨rfl, hhead⟩ := splitAtFirstDot_eq_some hsplit
    rw [find?_dotted _ hhead, hlookup, Option.none_or, findIn?, hinner]
    exact ih
  | case4 fields name hlookup head tail hsplit hinner =>
    obtain ⟨rfl, hhead⟩ := splitAtFirstDot_eq_some hsplit
    rw [find?_dotted _ hhead, hlookup, Option.none_or, findIn?]
    split
    case h_1 inner h => exact absurd h (hinner inner)
    case h_2 => rfl

/-! ### Segments -/

/-- The segments of a name, which its dots separate. -/
def segmentsOf (name : String) : List String := (name.toList.splitOn '.').map String.ofList

theorem segmentsOf_ne_nil (name : String) : segmentsOf name ≠ [] := by
  rw [segmentsOf, Ne, List.map_eq_nil_iff]
  exact List.splitOn_ne_nil '.' name.toList

theorem intercalate_segmentsOf (name : String) : ".".intercalate (segmentsOf name) = name := by
  have hmap : (segmentsOf name).map String.toList = name.toList.splitOn '.' := by
    rw [segmentsOf, List.map_map]
    simp
  rw [← String.toList_inj, String.toList_intercalate, hmap]
  exact List.intercalate_splitOn '.'

theorem dot_notMem_of_mem_splitOn {part : List Char} (h : part ∈ cs.splitOn '.') : '.' ∉ part := by
  induction cs generalizing part with
  | nil =>
    rw [List.splitOn_nil, List.mem_singleton] at h
    rw [h]
    exact List.not_mem_nil
  | cons c cs ih =>
    obtain ⟨first, others, hcs⟩ := List.exists_cons_of_ne_nil (List.splitOn_ne_nil '.' cs)
    rw [List.splitOn_cons_eq_if_modifyHead, hcs] at h
    split_ifs at h with hc
    · rcases List.mem_cons.mp h with rfl | h
      · exact List.not_mem_nil
      · exact ih (hcs ▸ h)
    · rw [List.modifyHead_cons] at h
      rcases List.mem_cons.mp h with rfl | h
      · have hfirst : '.' ∉ first := ih (hcs ▸ List.mem_cons_self)
        have hne : '.' ≠ c := by
          rintro rfl
          exact hc rfl
        rw [List.mem_cons]
        exact fun hmem => hmem.elim hne hfirst
      · exact ih (hcs ▸ List.mem_cons_of_mem first h)

theorem dot_notMem_of_mem_segmentsOf (h : s ∈ segmentsOf name) : '.' ∉ s.toList := by
  obtain ⟨part, hpart, rfl⟩ := List.mem_map.mp h
  rw [String.toList_ofList]
  exact dot_notMem_of_mem_splitOn hpart

theorem find?_intercalate_cons (e : Event) (hs : '.' ∉ s.toList) (hsegments : segments ≠ []) :
    e.find? (".".intercalate (s :: segments)) =
      (e.fields.lookup (".".intercalate (s :: segments))).or
        (e.findIn? s (".".intercalate segments)) := by
  rw [String.intercalate_cons_of_ne_nil hsegments]
  exact e.find?_dotted hs _

/-! ### Resolution -/

/-- Whether segments lead from fields to the fields of a record, one after the other: each names a
record among the fields that the ones before lead to. -/
inductive Descends : Fields → List String → Fields → Prop
  | here (fields : Fields) : Descends fields [] fields
  | down {fields inner last : Fields} {s : String} {segments : List String}
    (h : fields.lookup s = some (.record inner)) (hinner : Descends inner segments last) :
    Descends fields (s :: segments) last

/-- Whether the first `i` segments of a name lead to a record, and the others, with the dots between
them, name a field with a value there. -/
def ResolvesAt (e : Event) (segments : List String) (i : Nat) (v : Value) : Prop :=
  ∃ fields, Descends e.fields (segments.take i) fields ∧
    fields.lookup (".".intercalate (segments.drop i)) = some v

theorem resolvesAt_zero :
    e.ResolvesAt segments 0 v ↔ e.fields.lookup (".".intercalate segments) = some v := by
  constructor
  · rintro ⟨fields, hdescends, hlookup⟩
    cases hdescends
    exact hlookup
  · intro h
    exact ⟨e.fields, .here e.fields, h⟩

theorem resolvesAt_succ : e.ResolvesAt (s :: segments) (i + 1) v ↔
    ∃ inner, e.fields.lookup s = some (.record inner) ∧
      ResolvesAt ⟨inner⟩ segments i v := by
  constructor
  · rintro ⟨fields, hdescends, hlookup⟩
    rw [List.take_succ_cons] at hdescends
    cases hdescends with
    | down h hinner => exact ⟨_, h, fields, hinner, hlookup⟩
  · rintro ⟨inner, h, fields, hinner, hlookup⟩
    exact ⟨fields, .down h hinner, hlookup⟩

/-- The fewest segments after which a name resolves count. -/
theorem find?_of_resolvesAt (hdots : ∀ s ∈ segments, '.' ∉ s.toList) (hi : i < segments.length)
    (h : e.ResolvesAt segments i v) (hbefore : ∀ j < i, ∀ w, ¬ e.ResolvesAt segments j w) :
    e.find? (".".intercalate segments) = some v := by
  induction i generalizing e segments with
  | zero => exact find?_of_lookup (resolvesAt_zero.mp h)
  | succ i ih =>
    obtain ⟨s, segments, rfl⟩ := List.exists_cons_of_length_pos (Nat.zero_lt_of_lt hi)
    obtain ⟨hs, hdots⟩ := List.forall_mem_cons.mp hdots
    have hi : i < segments.length := Nat.lt_of_succ_lt_succ hi
    have hne : segments ≠ [] := List.ne_nil_of_length_pos (Nat.zero_lt_of_lt hi)
    have hlookup : e.fields.lookup (".".intercalate (s :: segments)) = none := by
      rw [Option.eq_none_iff_forall_ne_some]
      intro w hw
      exact hbefore 0 (Nat.succ_pos i) w (resolvesAt_zero.mpr hw)
    obtain ⟨inner, hinner, h⟩ := resolvesAt_succ.mp h
    have hbelow : find? ⟨inner⟩ (".".intercalate segments) = some v := by
      refine ih hdots hi h fun j hj w hw => ?_
      exact hbefore (j + 1) (Nat.succ_lt_succ hj) w (resolvesAt_succ.mpr ⟨inner, hinner, hw⟩)
    rw [e.find?_intercalate_cons hs hne, hlookup, Option.none_or, findIn?, hinner]
    exact hbelow

theorem exists_resolvesAt (hdots : ∀ s ∈ segments, '.' ∉ s.toList) (hne : segments ≠ [])
    (h : e.find? (".".intercalate segments) = some v) :
    ∃ i < segments.length, e.ResolvesAt segments i v ∧
      ∀ j < i, ∀ w, ¬ e.ResolvesAt segments j w := by
  induction segments generalizing e with
  | nil => exact absurd rfl hne
  | cons s segments ih =>
    obtain ⟨hs, hdots⟩ := List.forall_mem_cons.mp hdots
    have hfirst (hlookup : e.fields.lookup (".".intercalate (s :: segments)) = some v) :
        ∃ i < (s :: segments).length, e.ResolvesAt (s :: segments) i v ∧
          ∀ j < i, ∀ w, ¬ e.ResolvesAt (s :: segments) j w :=
      ⟨0, Nat.succ_pos _, resolvesAt_zero.mpr hlookup, fun j hj => absurd hj (Nat.not_lt_zero j)⟩
    by_cases hsegments : segments = []
    · subst hsegments
      rw [String.intercalate_singleton, find?_of_no_dot e hs] at h
      exact hfirst (by rwa [String.intercalate_singleton])
    rw [e.find?_intercalate_cons hs hsegments] at h
    rcases hlookup : e.fields.lookup (".".intercalate (s :: segments)) with _ | w
    · rw [hlookup, Option.none_or, findIn?] at h
      split at h
      case h_2 => cases h
      case h_1 inner hinner =>
        obtain ⟨i, hi, hresolves, hbefore⟩ := ih hdots hsegments h
        refine ⟨i + 1, Nat.succ_lt_succ hi, resolvesAt_succ.mpr ⟨inner, hinner, hresolves⟩, ?_⟩
        rintro (_ | j) hj w hw
        · cases hlookup.symm.trans (resolvesAt_zero.mp hw)
        · obtain ⟨inner', hinner', hw⟩ := resolvesAt_succ.mp hw
          obtain ⟨⟩ := hinner.symm.trans hinner'
          exact hbefore j (Nat.lt_of_succ_lt_succ hj) w hw
    · rw [hlookup, Option.some_or] at h
      exact hfirst (hlookup.trans h)

/-- A name without a value does not resolve. -/
theorem not_resolvesAt_of_find?_none (hdots : ∀ s ∈ segments, '.' ∉ s.toList)
    (h : e.find? (".".intercalate segments) = none) (hi : i < segments.length) (v : Value) :
    ¬ e.ResolvesAt segments i v := by
  induction i using Nat.strong_induction_on generalizing v with
  | _ i ih =>
    intro hresolves
    have hfind : e.find? (".".intercalate segments) = some v :=
      find?_of_resolvesAt hdots hi hresolves fun j hj w => ih j hj (Nat.lt_trans hj hi) w
    cases h.symm.trans hfind

/-! ### Names -/

/-- **Dotted names.** The segments of a name are what its dots separate. Reading the name gives the
value to which it resolves after the fewest of its segments, and nothing where it does not resolve
after any number of them, the last excepted. This is the same as looking it up as it stands, or else
what follows its first dot in the record that the part before the dot names. -/
theorem find?_resolves_shallowest (e : Event) (name : String) :
    (segmentsOf name ≠ [] ∧ (∀ s ∈ segmentsOf name, '.' ∉ s.toList) ∧
      ".".intercalate (segmentsOf name) = name) ∧
    (∀ v, e.find? name = some v ↔ ∃ i < (segmentsOf name).length,
      e.ResolvesAt (segmentsOf name) i v ∧ ∀ j < i, ∀ w, ¬ e.ResolvesAt (segmentsOf name) j w) ∧
    (e.find? name = none ↔
      ∀ i < (segmentsOf name).length, ∀ v, ¬ e.ResolvesAt (segmentsOf name) i v) ∧
    e.find? name = lookupDotted e.fields name := by
  have hne : segmentsOf name ≠ [] := segmentsOf_ne_nil name
  have hdots : ∀ s ∈ segmentsOf name, '.' ∉ s.toList := fun s => dot_notMem_of_mem_segmentsOf
  have hname : ".".intercalate (segmentsOf name) = name := intercalate_segmentsOf name
  have hsome (v : Value) : e.find? name = some v ↔ ∃ i < (segmentsOf name).length,
      e.ResolvesAt (segmentsOf name) i v ∧ ∀ j < i, ∀ w, ¬ e.ResolvesAt (segmentsOf name) j w := by
    rw [← congrArg e.find? hname]
    constructor
    · exact exists_resolvesAt hdots hne
    · rintro ⟨i, hi, hresolves, hbefore⟩
      exact find?_of_resolvesAt hdots hi hresolves hbefore
  refine ⟨⟨hne, hdots, hname⟩, hsome, ?_, find?_eq_lookupDotted e name⟩
  constructor
  · intro hnone i hi v
    exact not_resolvesAt_of_find?_none hdots ((congrArg e.find? hname).trans hnone) hi v
  · intro hnot
    rw [Option.eq_none_iff_forall_ne_some]
    intro v hv
    obtain ⟨i, hi, hresolves, -⟩ := (hsome v).mp hv
    exact hnot i hi v hresolves

/-- A field whose name has a dot stands before a nested one, also inside a record. -/
example : find? ⟨[("a", .record [("b.c", .text "x"), ("b", .record [("c", .text "y")])])]⟩ "a.b.c" =
    some (.text "x") := by
  rfl

end Vigil.Event
