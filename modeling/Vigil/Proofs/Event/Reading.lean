import Vigil.Event.Json
import Vigil.Proofs.Event.Equality
import Vigil.Proofs.Event.Fields
import Vigil.Proofs.Json.WellFormed
import Vigil.Proofs.Results

/-! # Events that are read

Every part of a well-formed JSON value is a value, so that what is made of it is always one. An event that is
read from a text has each name at most once, in itself and in all records inside it, as the objects of the
text have.

* `Value.ofJson?_eq`, `Event.ofJson?_object`: well-formed values are converted without an error;
* `Value.uniqueNames_ofJson`, `Value.UniqueNames.insert`: values that are made of JSON values, and
  fields that are set;
* `Event.uniqueNames_of_read?`: events that are read. -/

namespace Vigil

/-! ### Conversion -/

/-- Every number is a scalar of some kind. -/
theorem Scalar.ofNumber?_eq (n : JsonNumber) : ofNumber? n = .ok (ofNumber n) := by
  cases n with
  | whole n =>
    unfold ofNumber? ofNumber JsonNumber.toInt64?
    simp only
    split_ifs <;> rfl
  | negative | float => rfl

namespace Value

variable {items : List Json} {members : List (String × Json)} {fields : Fields}

theorem ofItems?_eq (h : ∀ v ∈ items, ofJson? v = .ok (ofJson v)) :
    ofItems? items = .ok (ofItems items) := by
  induction items with
  | nil => rfl
  | cons v items ih =>
    obtain ⟨hv, hitems⟩ := List.forall_mem_cons.mp h
    rw [ofItems?, hv, ih hitems]
    rfl

theorem setMembers?_eq (hnames : (fields.map Prod.fst ++ members.map Prod.fst).Nodup)
    (h : ∀ m ∈ members, ofJson? m.2 = .ok (ofJson m.2)) :
    setMembers? fields members = .ok (fields ++ ofMembers members) := by
  induction members generalizing fields with
  | nil => rw [setMembers?, ofMembers, List.append_nil]
  | cons m members ih =>
    obtain ⟨name, v⟩ := m
    obtain ⟨hv, hmembers⟩ := List.forall_mem_cons.mp h
    have hnew : name ∉ fields.map Prod.fst := fun hmem =>
      (List.nodup_append.mp hnames).2.2 name hmem name List.mem_cons_self rfl
    have hrest : setMembers? (fields ++ [(name, ofJson v)]) members =
        .ok (fields ++ [(name, ofJson v)] ++ ofMembers members) :=
      ih (by simpa using hnames) hmembers
    rw [List.append_assoc, ← Fields.insert_of_not_mem hnew] at hrest
    rw [setMembers?, hv]
    exact hrest

/-- What is made of a well-formed JSON value is a value. -/
theorem ofJson?_eq {v : Json} (h : v.WellFormed) : ofJson? v = .ok (ofJson v) := by
  induction h with
  | null | boolean | text => rfl
  | @number n =>
    show (Scalar.ofNumber? n).map Value.scalar = _
    rw [Scalar.ofNumber?_eq]
    rfl
  | array _ ih =>
    rw [ofJson?, ofItems?_eq ih]
    rfl
  | @object members names _ ih =>
    have hfields : setMembers? [] members = .ok ([] ++ ofMembers members) :=
      setMembers?_eq names.nodup ih
    rw [ofJson?, hfields]
    rfl

end Value

/-- What is made of a well-formed object is an event. -/
theorem Event.ofJson?_object {members : List (String × Json)} (h : (Json.object members).WellFormed) :
    Event.ofJson? (.object members) = .ok ⟨Value.ofMembers members⟩ := by
  obtain ⟨fields, hfields, heq⟩ := map_eq_ok.mp (Value.ofJson?_eq h)
  cases heq
  exact map_eq_ok.mpr ⟨_, hfields, rfl⟩

/-! ### Names -/

namespace Value

theorem ofItems_eq_map (items : List Json) : ofItems items = items.map ofJson := by
  induction items with
  | nil => rfl
  | cons v items ih => rw [ofItems, ih, List.map_cons]

theorem ofMembers_eq_map (members : List (String × Json)) :
    ofMembers members = members.map fun m => (m.1, ofJson m.2) := by
  induction members with
  | nil => rfl
  | cons m members ih => rw [ofMembers, ih, List.map_cons]

theorem uniqueNames_ofJson {v : Json} (h : v.WellFormed) : (ofJson v).UniqueNames := by
  induction h with
  | null => exact .scalar _
  | boolean => exact .scalar _
  | number => exact .scalar _
  | text => exact .scalar _
  | array _ ih =>
    rw [ofJson, ofItems_eq_map]
    refine .sequence fun v hv => ?_
    obtain ⟨item, hitem, rfl⟩ := List.mem_map.mp hv
    exact ih item hitem
  | @object members names _ ih =>
    rw [ofJson, ofMembers_eq_map]
    refine .record ?_ fun field hfield => ?_
    · rw [List.map_map]
      exact names.nodup
    · obtain ⟨m, hm, rfl⟩ := List.mem_map.mp hfield
      exact ih m hm

/-- Setting a field keeps to unique names. -/
theorem UniqueNames.insert {fields : Fields} {v : Value}
    (h : (Value.record fields).UniqueNames) (hv : v.UniqueNames) (name : String) :
    (Value.record (fields.insert name v)).UniqueNames := by
  cases h with
  | record hnames hfields =>
    refine .record (Fields.nodup_insert hnames name v) fun field hfield => ?_
    rcases Fields.mem_insert hfield with rfl | hfield
    · exact hv
    · exact hfields field hfield

end Value

namespace Event

theorem uniqueNames_of_fromJson? {depth : Nat} {cs rest : List Char} {e : Event}
    (h : fromJson? depth cs = .ok (e, rest)) : (Value.record e.fields).UniqueNames := by
  unfold fromJson? at h
  split at h
  · obtain ⟨⟨value, rest⟩, hvalue, h⟩ := bind_eq_ok.mp h
    have hformed := Json.wellFormed_value? hvalue
    have hunique := Value.uniqueNames_ofJson hformed
    cases value with
    | object members =>
      simp only [ofJson?_object hformed] at h
      cases h
      rwa [Value.ofJson] at hunique
    | null | boolean | number | text | array => cases h
  · cases h

/-- **Names** are unique in every event that is read, in itself and in all records inside it. -/
theorem uniqueNames_of_read? {text : String} {e : Event} (h : read? text = .ok e) :
    (Value.record e.fields).UniqueNames := by
  obtain ⟨⟨e', rest⟩, he, h⟩ := bind_eq_ok.mp h
  obtain ⟨-, -, h⟩ := bind_eq_ok.mp h
  cases h
  exact uniqueNames_of_fromJson? he

end Event

end Vigil
