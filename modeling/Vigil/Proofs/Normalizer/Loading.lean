import Vigil.Normalizer.Description
import Vigil.Proofs.Results

/-! # What a description is read as

The normalizer of a description has the parts of the description, each of its conditions and
mappings read, in the same order.

* `EventClassDescription.describes_of_toEventClass?`: the class of a description;
* `NormalizerDescription.describes_of_toNormalizer?`: the normalizer of a description. -/

namespace Vigil

/-- Entries of which each has the name of one that is described, and is read from it. -/
abbrev ReadAs {α β : Type} (reads : α → β → Prop) (described : List (String × α))
    (entries : List (String × β)) : Prop :=
  List.Forall₂ (fun d e => e.1 = d.1 ∧ reads d.2 e.2) described entries

theorem readAs_nil {α β : Type} {reads : α → β → Prop} {entries : List (String × β)} :
    ReadAs reads [] entries ↔ entries = [] :=
  List.forall₂_nil_left_iff

theorem readAs_cons {α β : Type} {reads : α → β → Prop} {name : String} {a : α}
    {described : List (String × α)} {entries : List (String × β)} :
    ReadAs reads ((name, a) :: described) entries ↔
      ∃ b entries', reads a b ∧ ReadAs reads described entries' ∧
        entries = (name, b) :: entries' := by
  rw [ReadAs, List.forall₂_cons_left_iff]
  constructor
  · rintro ⟨⟨_, b⟩, entries', ⟨rfl, hb⟩, hentries, rfl⟩
    exact ⟨b, entries', hb, hentries, rfl⟩
  · rintro ⟨b, entries', hb, hentries, rfl⟩
    exact ⟨(name, b), entries', ⟨rfl, hb⟩, hentries, rfl⟩

theorem ConditionRole.condition?_eq_ok {role : ConditionRole} {source : String} {q : Query} :
    role.condition? source = .ok q ↔ Query.readCondition? source = .ok q :=
  mapError_eq_ok

theorem Mapping.ofEntry?_eq_ok {entry : String × String} {result : String × Mapping} :
    Mapping.ofEntry? entry = .ok result ↔
      result.1 = entry.1 ∧ Mapping.read? entry.2 = some result.2 := by
  unfold ofEntry?
  obtain ⟨target, m⟩ := result
  rcases h : Mapping.read? entry.2 with _ | m'
  · simp
  · simp [Prod.ext_iff, eq_comm]

theorem mapM_ofEntry?_eq_ok {entries : List (String × String)}
    {mappings : List (String × Mapping)} : entries.mapM Mapping.ofEntry? = .ok mappings ↔
      ReadAs (fun text m => Mapping.read? text = some m) entries mappings := by
  simp only [mapM_eq_ok, Mapping.ofEntry?_eq_ok]

/-- The condition of an option is the one that its text is read as. -/
abbrev OptionsReadAs : List (String × String) → List (String × Query) → Prop :=
  ReadAs fun text q => Query.readCondition? text = .ok q

theorem optionsReadAs_of_enumOptions? {field : String} {options : List (String × String)}
    {queries : List (String × Query)} (h : enumOptions? field options = .ok queries) :
    OptionsReadAs options queries := by
  refine (mapM_eq_ok.mp h).imp ?_
  rintro ⟨name, source⟩ ⟨name', q⟩ hread
  obtain ⟨q', hq, heq⟩ := bind_eq_ok.mp hread
  cases heq
  exact ⟨rfl, ConditionRole.condition?_eq_ok.mp hq⟩

/-! ### Classes -/

namespace EventClassDescription

/-- The class that a description with a name is of. -/
structure Describes (name : String) (d : EventClassDescription) (c : EventClass) : Prop where
  name : c.name = name
  filter : Query.readCondition? d.filter = .ok c.filter
  mappings : ReadAs (fun text m => Mapping.read? text = some m) d.mappings c.mappings
  enums : ReadAs OptionsReadAs d.enums c.enums

theorem describes_of_toEventClass? {name : String} {d : EventClassDescription} {c : EventClass}
    (h : d.toEventClass? name = .ok c) : d.Describes name c := by
  obtain ⟨filter, hfilter, h⟩ := bind_eq_ok.mp h
  obtain ⟨mappings, hmappings, h⟩ := bind_eq_ok.mp h
  obtain ⟨enums, henums, h⟩ := bind_eq_ok.mp h
  cases h
  refine ⟨rfl, ConditionRole.condition?_eq_ok.mp hfilter, mapM_ofEntry?_eq_ok.mp hmappings,
    (mapM_eq_ok.mp henums).imp ?_⟩
  rintro ⟨field, options⟩ ⟨field', queries⟩ hread
  obtain ⟨queries', hqueries, heq⟩ := bind_eq_ok.mp hread
  cases heq
  exact ⟨rfl, optionsReadAs_of_enumOptions? hqueries⟩

end EventClassDescription

/-! ### Normalizers -/

namespace NormalizerDescription

/-- The normalizer that a description is of. -/
structure Describes (d : NormalizerDescription) (n : Normalizer) : Prop where
  strict : n.strict = d.strict
  timestamp : n.timestamp = d.timestamp
  scope : n.scope = d.scope
  mappings : ReadAs (fun text m => Mapping.read? text = some m) d.mappings n.mappings
  classes : List.Forall₂ (fun d c => d.2.Describes d.1 c) d.classes n.classes

theorem describes_of_toNormalizer? {d : NormalizerDescription} {n : Normalizer}
    (h : d.toNormalizer? = .ok n) : d.Describes n := by
  obtain ⟨classes, hclasses, h⟩ := bind_eq_ok.mp h
  obtain ⟨-, -, h⟩ := bind_eq_ok.mp h
  obtain ⟨mappings, hmappings, h⟩ := bind_eq_ok.mp h
  cases h
  refine ⟨rfl, rfl, rfl, mapM_ofEntry?_eq_ok.mp hmappings, (mapM_eq_ok.mp hclasses).imp ?_⟩
  rintro ⟨name, c⟩ result hread
  exact EventClassDescription.describes_of_toEventClass? hread

theorem Describes.classNames {d : NormalizerDescription} {n : Normalizer} (h : d.Describes n) :
    n.classNames = d.classes.map (·.1) := by
  have hnames : List.Forall₂ Eq (n.classes.map (·.name)) (d.classes.map (·.1)) := by
    rw [List.forall₂_map_left_iff, List.forall₂_map_right_iff]
    exact h.classes.flip.imp fun _ _ hc => hc.name
  rwa [List.forall₂_eq_eq_eq] at hnames

end NormalizerDescription

end Vigil
