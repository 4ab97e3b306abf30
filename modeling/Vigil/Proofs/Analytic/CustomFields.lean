import Mathlib.Data.List.Forall2
import Vigil.Analytic.Document
import Vigil.Proofs.Json.Members
import Vigil.Proofs.Yaml.Fields

/-! # Custom fields

The custom fields of an analytic stand in the order of their names.

* `sorted_sortFields`, `sortFields_eq_self`, `lookup_sortFields`: sorting, where the last value of a
  name counts;
* `Draft.Holds`: what a draft of an analytic says of the entries that have been read;
* `Draft.Holds.readFields`: a run over entries keeps it, since each of them does (`Draft.Holds.step`). -/

namespace Vigil

open Vigil.Yaml

/-! ### Sorting -/

namespace Analytic

variable {fields : List (String × Datum)} {name : String} {d : Datum}

theorem sortFields_append (fields : List (String × Datum)) (name : String) (d : Datum) :
    sortFields (fields ++ [(name, d)]) = Json.insert name d (sortFields fields) :=
  Json.foldl_insert_append name d

theorem namesIncrease_sortFields (fields : List (String × Datum)) :
    Json.NamesIncrease (sortFields fields) :=
  Json.namesIncrease_foldl_insert fields

/-- Fields in the order of their names stay as they are. -/
theorem sortFields_eq_self (h : Json.NamesIncrease fields) : sortFields fields = fields := by
  induction fields using List.reverseRecOn with
  | nil => rfl
  | append_singleton fields field ih =>
    obtain ⟨hfields, -, hlast⟩ := List.pairwise_append.mp h
    rw [sortFields_append, ih hfields,
      Json.insert_of_lt fun p hp => hlast p hp field List.mem_cons_self]

/-- The last value of a name counts. -/
theorem lookup_sortFields (fields : List (String × Datum)) (name : String) :
    (sortFields fields).lookup name = fields.reverse.lookup name :=
  Json.lookup_foldl_insert fields name

theorem mem_of_mem_sortFields {p : String × Datum} (h : p ∈ sortFields fields) : p ∈ fields :=
  Json.mem_of_mem_foldl_insert h

/-! ### Drafts -/

variable {entries : List (Yaml × Yaml)} {given given' : List String} {draft draft' : Draft}

/-- The names of the fields that are not custom. -/
def knownFields : List String := [metadataField, queryField]

/-- Whether a custom field has what the value of a field denotes, and its name. -/
def IsReadFrom (field : String × Yaml) (custom : String × Datum) : Prop :=
  custom.1 = field.1 ∧ Datum.read [field.1] field.2 = .ok custom.2

/-- Whether a draft is what has been read of some fields: its query has been read from a text, and
its custom fields are those with other names than the known ones. -/
structure Draft.Holds (draft : Draft) (fields : List (String × Yaml)) : Prop where
  query : ∀ q, draft.query = some q → ∃ text, Query.read? text = .ok q
  custom : List.Forall₂ IsReadFrom (fields.filter fun f => !knownFields.contains f.1)
    draft.customFields

theorem Draft.holds_nil : Draft.Holds {} [] :=
  ⟨fun _ h => (Option.some_ne_none _ h.symm).elim, .nil⟩

variable {fields : List (String × Yaml)} {y : Yaml}

/-- A known field changes no custom ones. -/
theorem Draft.Holds.setField (h : draft.Holds fields) (hknown : knownFields.contains name = true)
    {path : YamlPath} (hset : Analytic.setField name draft path y = .ok draft') :
    draft'.Holds (fields ++ [(name, y)]) := by
  have hfilter : (fields ++ [(name, y)]).filter (fun f => !knownFields.contains f.1) =
      fields.filter fun f => !knownFields.contains f.1 := by
    have hnone : [(name, y)].filter (fun f => !knownFields.contains f.1) = [] :=
      List.filter_cons_of_neg (by rw [hknown]; decide)
    rw [List.filter_append, hnone, List.append_nil]
  unfold Analytic.setField at hset
  split at hset
  · obtain ⟨m, -, rfl⟩ := map_eq_ok.mp hset
    exact ⟨h.query, hfilter ▸ h.custom⟩
  · obtain ⟨q, hq, rfl⟩ := map_eq_ok.mp hset
    refine ⟨fun q' hq' => ?_, hfilter ▸ h.custom⟩
    cases hq'
    obtain ⟨text, -, hread⟩ := bind_eq_ok.mp hq
    refine ⟨text, ?_⟩
    split at hread
    · cases hread
      assumption
    · cases hread

/-- Any other field is added to the custom ones. -/
theorem Draft.Holds.addCustomField (h : draft.Holds fields)
    (hcustom : knownFields.contains name = false)
    (hadd : Analytic.addCustomField name draft [name] y = .ok draft') :
    draft'.Holds (fields ++ [(name, y)]) := by
  obtain ⟨d, hd, heq⟩ := bind_eq_ok.mp hadd
  cases heq
  refine ⟨h.query, ?_⟩
  rw [List.filter_append]
  simp only [List.filter_cons, hcustom, Bool.not_false, if_true, List.filter_nil]
  exact List.rel_append h.custom (.cons ⟨rfl, hd⟩ .nil)

/-- A run over entries keeps a draft to what has been read. -/
theorem Draft.Holds.readFields (h : draft.Holds fields)
    (hread : readFieldsFrom knownFields Analytic.setField Analytic.addCustomField [] given draft
      entries = .ok (draft', given')) :
    ∃ more, AreFields entries more ∧ draft'.Holds (fields ++ more) := by
  refine readFields_run (P := fun fields _ draft => draft.Holds fields) ?_ ?_ hread h
  · intro fields given draft draft' name y hknown _ hset hholds
    exact hholds.setField hknown hset
  · intro fields given draft draft' name y hcustom hadd hholds
    exact hholds.addCustomField hcustom hadd

/-! ### Custom fields of an analytic -/

/-- Whether custom fields are the fields of a mapping but the known ones: each name once, with what
the last of its values denotes. -/
structure AreCustomFieldsOf (custom : List (String × Datum)) (fields : List (String × Yaml)) :
    Prop where
  nodup : (custom.map Prod.fst).Nodup
  known : ∀ name ∈ knownFields, custom.lookup name = none
  other : ∀ name ∉ knownFields, Option.Rel (fun y d => Datum.read [name] y = .ok d)
    (fields.reverse.lookup name) (custom.lookup name)

theorem rel_lookup {custom : List (String × Datum)} (h : List.Forall₂ IsReadFrom fields custom)
    (name : String) : Option.Rel (fun y d => Datum.read [name] y = .ok d)
      (fields.lookup name) (custom.lookup name) := by
  induction h with
  | nil => exact .none
  | @cons f c fields custom hc _ ih =>
    obtain ⟨field, y⟩ := f
    obtain ⟨_, d⟩ := c
    obtain ⟨rfl, hread⟩ := hc
    rw [lookup_entry, lookup_entry]
    split_ifs with hname
    · subst hname
      exact .some hread
    · exact ih

theorem exists_isReadFrom {custom : List (String × Datum)} {c : String × Datum}
    (h : List.Forall₂ IsReadFrom fields custom) (hc : c ∈ custom) : ∃ f ∈ fields, IsReadFrom f c := by
  induction h with
  | nil => cases hc
  | @cons f d fields custom hd _ ih =>
    rcases List.mem_cons.mp hc with rfl | hc
    · exact ⟨f, List.mem_cons_self, hd⟩
    · obtain ⟨g, hg, hread⟩ := ih hc
      exact ⟨g, List.mem_cons_of_mem f hg, hread⟩

/-- The custom fields of a draft, in the order of their names. -/
theorem Draft.Holds.areCustomFieldsOf (h : draft.Holds fields) :
    AreCustomFieldsOf (sortFields draft.customFields) fields := by
  have hlookup (name : String) : Option.Rel (fun y d => Datum.read [name] y = .ok d)
      (if !knownFields.contains name then fields.reverse.lookup name else none)
      ((sortFields draft.customFields).lookup name) := by
    rw [lookup_sortFields, ← lookup_filter (fun name => !knownFields.contains name),
      List.filter_reverse]
    exact rel_lookup (List.forall₂_reverse_iff.mpr h.custom) name
  refine ⟨?_, fun name hname => ?_, fun name hname => ?_⟩
  · exact List.pairwise_map.mpr
      ((namesIncrease_sortFields draft.customFields).imp fun hlt => hlt.ne)
  · have hrel := hlookup name
    rw [if_neg (by simpa using hname)] at hrel
    generalize (sortFields draft.customFields).lookup name = d at hrel
    cases hrel
    rfl
  · have hrel := hlookup name
    rwa [if_pos (by simpa using hname)] at hrel

end Analytic

end Vigil
