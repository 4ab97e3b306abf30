import Vigil.Normalizer.Basic

/-! # Descriptions of normalizers

A description is what a normalizer is made of, with conditions and mappings as they are written. `toNormalizer?`
reads them all and reports the first that is wrong: the classes come first, and of a class its filter, its
mappings and then its enums; then comes the scope, and the mappings for all classes are last. -/

namespace Vigil

open Vigil.Text

/-- A class of events as it is described. -/
structure EventClassDescription where
  filter : String := ""
  mappings : List (String × String) := []
  enums : List (String × List (String × String)) := []
deriving DecidableEq

/-- A normalizer as it is described. -/
structure NormalizerDescription where
  name : String := ""
  domain : Option String := none
  strict : Bool := false
  timestamp : Option TimestampSource := none
  scope : Option String := none
  mappings : List (String × String) := []
  classes : List (String × EventClassDescription) := []
deriving DecidableEq

/-- What a condition is for. -/
inductive ConditionRole
  | filter (className : String)
  | option (field name : String)
deriving DecidableEq

/-- How messages call what a condition is for. -/
def ConditionRole.render : ConditionRole → String
  | .filter className => "'" ++ className ++ "' filter"
  | .option field name => "'" ++ field ++ "." ++ name ++ "' enum"

/-- Why a description is of no normalizer. -/
inductive DescriptionError
  | condition (role : ConditionRole) (source : String) (reason : QueryError)
  | mapping (text : String)
deriving DecidableEq

/-- The message of an error, with the report on an expression that is refused, if there is one. -/
def DescriptionError.message (e : DescriptionError) (report : Option String := none) : String :=
  match e with
  | .condition role source reason =>
    "Invalid " ++ role.render ++ " condition '" ++ source ++ "': " ++ reason.message report
  | .mapping text => "Invalid field mapping '" ++ text ++ "'"

/-! ### Reading what is written -/

/-- Reads a condition. -/
def ConditionRole.condition? (role : ConditionRole) (source : String) : Except DescriptionError Query :=
  (Query.readCondition? source).mapError fun reason => .condition role source reason

/-- Reads the mapping of a target. An error shows it without the blanks around it. -/
def Mapping.ofEntry? (entry : String × String) : Except DescriptionError (String × Mapping) :=
  match Mapping.read? entry.2 with
  | some m => .ok (entry.1, m)
  | none => .error (.mapping (String.ofList (trim entry.2.toList)))

/-- Checks a scope. -/
def checkScope (scope : Option String) : Except DescriptionError Unit :=
  match scope with
  | none => .ok ()
  | some name => if Mapping.isFieldName name.toList then .ok () else .error (.mapping name)

/-- Reads the options of an enum for a field. -/
def enumOptions? (field : String) (options : List (String × String)) :
    Except DescriptionError (List (String × Query)) :=
  options.mapM fun (name, source) => do
    return (name, ← (ConditionRole.option field name).condition? source)

namespace EventClassDescription

/-- The class with a name that a description is of. -/
def toEventClass? (name : String) (d : EventClassDescription) : Except DescriptionError EventClass := do
  let filter ← (ConditionRole.filter name).condition? d.filter
  let mappings ← d.mappings.mapM Mapping.ofEntry?
  let enums ← d.enums.mapM fun (field, options) => do
    return (field, ← enumOptions? field options)
  return ⟨name, filter, mappings, enums⟩

end EventClassDescription

namespace NormalizerDescription

/-- The normalizer that a description is of. -/
def toNormalizer? (d : NormalizerDescription) : Except DescriptionError Normalizer := do
  let classes ← d.classes.mapM fun (name, c) => c.toEventClass? name
  checkScope d.scope
  let mappings ← d.mappings.mapM Mapping.ofEntry?
  return ⟨d.name, d.domain, d.strict, d.timestamp, d.scope, mappings, classes⟩

end NormalizerDescription

end Vigil
