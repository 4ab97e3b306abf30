import Mathlib.Data.List.Basic
import Vigil.Normalizer.Basic
import Vigil.Proofs.Normalizer.Sameness
import Vigil.Proofs.Query.Dependence

/-! # What a strict normalizer reads

A strict normalizer looks at the class of an event and at the fields in `readFields`, and at
nothing else; so no other field of the event can show in the common form, nor in an error.

* `Mapping.value?_same`, `mappedFields_same`, `selectedOption?_congr`: what one mapping, several
  mappings and one enum read;
* `Normalizer.ReadsAlike.assignments_same`: what is written for two events with the same values in the
  fields that are read;
* `Normalizer.strict_normalize_congr`: their common forms, or the errors and their messages. -/

namespace Vigil

variable {e₁ e₂ : Event}

/-! ### Queries -/

/-- Whether two events have the same value under a name, or neither has one. -/
def SameAt (e₁ e₂ : Event) (name : String) : Prop :=
  Option.Rel Value.Same (e₁.find? name) (e₂.find? name)

theorem SameAt.findText?_eq {name : String} (h : SameAt e₁ e₂ name) :
    e₁.findText? name = e₂.findText? name := by
  unfold SameAt at h
  unfold Event.findText?
  generalize e₁.find? name = x, e₂.find? name = y at h
  cases h with
  | none => rfl
  | some hvw => exact hvw.text?_eq

namespace Query

theorem Test.holds_eq_of_sameAt {t : Test} (h : SameAt e₁ e₂ t.field) : t.holds e₁ = t.holds e₂ :=
  holds_eq_of_find?_rel rfl rfl h fun v w hvw => by
    rw [t.satisfiedBy_eq_any, t.satisfiedBy_eq_any, hvw.scalars_eq]

theorem selects_eq_of_sameAt {q : Query} (hclass : e₁.class? = e₂.class?)
    (h : ∀ field ∈ q.fields, SameAt e₁ e₂ field) : q.selects e₁ = q.selects e₂ := by
  have hcondition : q.condition.holds e₁ = q.condition.holds e₂ :=
    Condition.holds_eq_of_tests fun t ht =>
      Test.holds_eq_of_sameAt (h t.field (Condition.mem_fields.mpr ⟨t, ht, rfl⟩))
  rw [selects, selects, appliesTo_congr hclass, hcondition]

end Query

/-! ### Mappings and enums -/

theorem Mapping.value?_same {m : Mapping} (h : SameAt e₁ e₂ m.source) :
    Option.Rel Value.Same (m.value? e₁) (m.value? e₂) := by
  cases m with
  | field name => exact h
  | baseName name =>
    have htext : e₁.findText? name = e₂.findText? name := SameAt.findText?_eq h
    rw [value?, value?, htext]
    rcases e₂.findText? name with _ | path
    · exact .none
    · exact .some (.scalar _)
  | dirName name =>
    have htext : e₁.findText? name = e₂.findText? name := SameAt.findText?_eq h
    rw [value?, value?, htext]
    rcases (e₂.findText? name).bind dirName? with _ | dir
    · exact .none
    · exact .some (.scalar _)

theorem mappedFields_same {mappings : List (String × Mapping)}
    (h : ∀ entry ∈ mappings, SameAt e₁ e₂ entry.2.source) :
    List.Forall₂ SameField (mappedFields mappings e₁) (mappedFields mappings e₂) :=
  forall₂_filterMap fun entry hentry =>
    rel_map (Mapping.value?_same (h entry hentry)) fun _ _ hvw => ⟨rfl, hvw⟩

theorem find?_selects_congr {α : Type} {entries : List α} {condition : α → Query}
    (hclass : e₁.class? = e₂.class?)
    (h : ∀ a ∈ entries, ∀ field ∈ (condition a).fields, SameAt e₁ e₂ field) :
    (entries.find? fun a => (condition a).selects e₁) =
      entries.find? fun a => (condition a).selects e₂ := by
  induction entries with
  | nil => rfl
  | cons a entries ih =>
    have hselects := Query.selects_eq_of_sameAt hclass (h a List.mem_cons_self)
    rw [List.find?_cons, List.find?_cons, hselects,
      ih fun b hb => h b (List.mem_cons_of_mem a hb)]

theorem selectedOption?_congr {options : List (String × Query)} (hclass : e₁.class? = e₂.class?)
    (h : ∀ option ∈ options, ∀ field ∈ option.2.fields, SameAt e₁ e₂ field) :
    selectedOption? options e₁ = selectedOption? options e₂ :=
  congrArg (·.map (·.1)) (find?_selects_congr hclass h)

theorem EventClass.enumFields_congr {c : EventClass} (hclass : e₁.class? = e₂.class?)
    (h : ∀ enum ∈ c.enums, ∀ option ∈ enum.2, ∀ field ∈ option.2.fields, SameAt e₁ e₂ field) :
    c.enumFields e₁ = c.enumFields e₂ := by
  apply List.filterMap_congr
  rintro ⟨target, options⟩ henum
  simp only [selectedOption?_congr hclass (h _ henum)]

/-! ### The fields that are read -/

namespace EventClass

/-- The fields that the filter of a class and the conditions of its enums read. -/
def conditionFields (c : EventClass) : List String :=
  c.filter.fields ++ c.enums.flatMap fun enum => enum.2.flatMap fun option => option.2.fields

theorem mem_conditionFields_of_filter {c : EventClass} {field : String}
    (h : field ∈ c.filter.fields) : field ∈ c.conditionFields :=
  List.mem_append_left _ h

theorem mem_conditionFields_of_option {c : EventClass} {field : String}
    {enum : String × List (String × Query)} {option : String × Query} (henum : enum ∈ c.enums)
    (hoption : option ∈ enum.2) (h : field ∈ option.2.fields) : field ∈ c.conditionFields :=
  List.mem_append_right _
    (List.mem_flatMap.mpr ⟨enum, henum, List.mem_flatMap.mpr ⟨option, hoption, h⟩⟩)

end EventClass

namespace Normalizer

variable {n : Normalizer} {r₁ r₂ : Event}

/-- All mappings: those for all classes and those of each class. -/
def allMappings (n : Normalizer) : List (String × Mapping) :=
  n.mappings ++ n.classes.flatMap (·.mappings)

/-- The fields that the mappings read: the scope, where there is one, and else their sources. -/
def mappingFields (n : Normalizer) : List String :=
  match n.scope with
  | some scope => [scope]
  | none => n.allMappings.map fun entry => entry.2.source

/-- The fields that a strict normalizer reads: that of the timestamp, those of the filters and the
conditions of enums, and those of the mappings. -/
def readFields (n : Normalizer) : List String :=
  (n.timestamp.map (·.field)).toList ++ n.classes.flatMap (·.conditionFields) ++ n.mappingFields

theorem mem_classes_of_class? {r : Event} {c : EventClass} (h : n.class? r = some c) :
    c ∈ n.classes := by
  unfold class? at h
  split at h
  case h_1 d hnamed =>
    cases h
    obtain ⟨name, -, hfind⟩ := Option.bind_eq_some_iff.mp hnamed
    exact List.mem_of_find?_eq_some hfind
  case h_2 => exact List.mem_of_find?_eq_some h

theorem sameFields_enumFields (c : EventClass) (r : Event) :
    List.Forall₂ SameField (c.enumFields r) (c.enumFields r) := by
  refine List.forall₂_same.mpr fun field hfield => ?_
  obtain ⟨enum, -, henum⟩ := List.mem_filterMap.mp hfield
  obtain ⟨option, -, rfl⟩ := Option.map_eq_some_iff.mp henum
  exact ⟨rfl, .scalar _⟩

/-- The records that are the scope hold the same. -/
theorem visible_lookup_rel {scope : String} (hscope : n.scope = some scope)
    (h : SameAt r₁ r₂ scope) (name : String) :
    Option.Rel Value.Same ((n.visible r₁).fields.lookup name)
      ((n.visible r₂).fields.lookup name) := by
  unfold SameAt at h
  unfold visible
  simp only [hscope]
  generalize r₁.find? scope = x, r₂.find? scope = y at h
  cases h with
  | none => exact .none
  | some hvw =>
    cases hvw with
    | scalar | sequence => exact .none
    | record names names' there values => exact rel_of_isSome_eq (there name) (values name)

/-- Whether two events are of one class and have the same values in all fields that a strict normalizer
reads. -/
structure ReadsAlike (n : Normalizer) (r₁ r₂ : Event) : Prop where
  classes : r₁.class? = r₂.class?
  fields : ∀ field ∈ n.readFields, Option.Rel Value.Same (r₁.find? field) (r₂.find? field)

namespace ReadsAlike

variable (h : n.ReadsAlike r₁ r₂)
include h

theorem sameAt_timestamp {t : TimestampSource} (ht : n.timestamp = some t) :
    SameAt r₁ r₂ t.field :=
  h.fields _ (List.mem_append_left _ (List.mem_append_left _ (by simp [ht])))

theorem sameAt_condition {c : EventClass} (hc : c ∈ n.classes) {field : String}
    (hfield : field ∈ c.conditionFields) : SameAt r₁ r₂ field :=
  h.fields _ (List.mem_append_left _ (List.mem_append_right _
    (List.mem_flatMap.mpr ⟨c, hc, hfield⟩)))

theorem sameAt_mapping {field : String} (hfield : field ∈ n.mappingFields) :
    SameAt r₁ r₂ field :=
  h.fields _ (List.mem_append_right _ hfield)

/-! ### What is done with them -/

theorem timestamp?_same :
    SameOutcome (Option.Rel Value.Same) (n.timestamp? r₁) (n.timestamp? r₂) := by
  unfold timestamp?
  rcases ht : n.timestamp with _ | t
  · exact .ok .none
  · have hsame := h.sameAt_timestamp ht
    have hread : SameOutcome Value.Same (t.read n.name r₁) (t.read n.name r₂) := by
      unfold SameAt at hsame
      unfold TimestampSource.read
      generalize r₁.find? t.field = x, r₂.find? t.field = y at hsame
      cases hsame with
      | none => exact .error (.missing _ _)
      | some hvw => exact hvw.convert t
    exact hread.map fun _ _ => .some

theorem class?_eq : n.class? r₁ = n.class? r₂ := by
  have hnamed : n.namedClass? r₁ = n.namedClass? r₂ := by
    rw [namedClass?, namedClass?, h.classes]
  have hfound : (n.classes.find? fun c => c.filter.selects r₁) =
      n.classes.find? fun c => c.filter.selects r₂ :=
    find?_selects_congr h.classes fun c hc field hfield =>
      h.sameAt_condition hc (EventClass.mem_conditionFields_of_filter hfield)
  rw [class?, class?, hnamed, hfound]

theorem enumFields_eq {c : EventClass} (hc : c ∈ n.classes) :
    c.enumFields r₁ = c.enumFields r₂ :=
  EventClass.enumFields_congr h.classes fun _ henum _ hoption _ hfield =>
    h.sameAt_condition hc (EventClass.mem_conditionFields_of_option henum hoption hfield)

/-- With a scope the mappings read the same record, and without one they read their sources. -/
theorem mappedFields_same {mappings : List (String × Mapping)}
    (hmappings : ∀ entry ∈ mappings, entry ∈ n.allMappings) :
    List.Forall₂ SameField (mappedFields mappings (n.visible r₁))
      (mappedFields mappings (n.visible r₂)) := by
  refine Vigil.mappedFields_same fun entry hentry => ?_
  rcases hscope : n.scope with _ | scope
  · have hvisible : ∀ r, n.visible r = r := fun r => by simp [visible, hscope]
    rw [hvisible, hvisible]
    apply h.sameAt_mapping
    rw [mappingFields, hscope]
    exact List.mem_map.mpr ⟨entry, hmappings entry hentry, rfl⟩
  · have hfind : SameAt r₁ r₂ scope := h.sameAt_mapping (by simp [mappingFields, hscope])
    exact Event.find?_rel Value.Same.keepsRecords (visible_lookup_rel hscope hfind) _

theorem classAssignments_same :
    List.Forall₂ SameField (n.classAssignments r₁) (n.classAssignments r₂) := by
  unfold classAssignments
  rw [h.class?_eq]
  rcases hc : n.class? r₂ with _ | c
  · exact .nil
  · have hmem : c ∈ n.classes := mem_classes_of_class? hc
    have hmapped := h.mappedFields_same fun entry hentry =>
      List.mem_append_right _ (List.mem_flatMap.mpr ⟨c, hmem, hentry⟩)
    simp only [h.enumFields_eq hmem]
    exact List.rel_append (sameFields_enumFields c r₂) hmapped

theorem assignments_same {t₁ t₂ : Option Value} (ht : Option.Rel Value.Same t₁ t₂) :
    List.Forall₂ SameField (n.assignments r₁ t₁) (n.assignments r₂ t₂) := by
  have hmapped := h.mappedFields_same fun entry hentry => List.mem_append_left _ hentry
  have htimestamp : List.Forall₂ SameField (t₁.map fun t => (timestampField, t)).toList
      (t₂.map fun t => (timestampField, t)).toList := by
    cases ht with
    | none => exact .nil
    | some hvw => exact .cons ⟨rfl, hvw⟩ .nil
  rw [assignments, assignments, h.class?_eq]
  refine List.rel_append (List.rel_append (List.rel_append hmapped h.classAssignments_same) ?_)
    htimestamp
  exact .cons ⟨rfl, .scalar _⟩ .nil

end ReadsAlike

theorem normalize_eq_map (n : Normalizer) (r : Event) : n.normalize r =
    (n.timestamp? r).map fun t => (n.base r).writeAll (n.assignments r t) := by
  unfold normalize
  rcases n.timestamp? r with _ | t <;> rfl

end Normalizer

end Vigil
