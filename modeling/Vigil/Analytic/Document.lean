import Vigil.Analytic.Basic

/-! # Analytics as documents

An analytic is read from a mapping with the fields `metadata` and `query`; all other fields are custom. Of the
metadata, only the identifier and the name have to be there. `toDatum` is the document that an analytic is
written to, without the fields that say nothing. -/

namespace Vigil

open Vigil.Yaml

/-! ### Reading -/

namespace Confidence

/-- The error for a name that no degree has. -/
def unknownName (s : String) (path : YamlPath) : YamlError :=
  .mismatch path ("unknown variant \x60" ++ s ++ "\x60, expected one of " ++
    ", ".intercalate (all.map fun c => "\x60" ++ c.name ++ "\x60"))

/-- Reads a degree: its name, or its name as a tag of nothing. -/
def read : Yaml.Reader Confidence := fun path y =>
  match localTag? y.contentTag?, y with
  | some name, y =>
    match ofName? name, y with
    | none, _ => .error (unknownName name path.dropLast)
    | some c, .scalar .plain tag s =>
      if s.isEmpty || isNull s then .ok c else .error (Yaml.mismatch "unit" path (.scalar .plain tag s))
    | some _, y => .error (Yaml.mismatch "unit" path y)
  | none, .scalar _ _ s =>
    match ofName? s with
    | some c => .ok c
    | none => .error (unknownName s path)
  | none, y => .error (Yaml.mismatch "a YAML tag starting with '!'" path y)

end Confidence

namespace Metadata

/-- The fields that are known. -/
def fieldNames : List String :=
  ["id", "name", "description", "os", "tactics", "techniques", "categories", "confidence",
    "contributors", "references", "created_date", "updated_date"]

/-- The fields that have to be there. -/
def requiredFields : List String := ["id", "name"]

/-- How messages call metadata. -/
def formatName : String := "struct Metadata"

/-- Reads the value of a field. -/
def setField (field : String) (m : Metadata) : Yaml.Reader Metadata := fun path y =>
  let text := Yaml.readOption Yaml.readText path y
  let texts := Yaml.readList Yaml.readText path y
  match field with
  | "id" => (Uuid.read path y).map fun id => { m with id := id }
  | "name" => (Yaml.readText path y).map fun s => { m with name := s }
  | "description" => text.map fun s => { m with description := s }
  | "os" => texts.map fun l => { m with os := l }
  | "tactics" => texts.map fun l => { m with tactics := l }
  | "techniques" => texts.map fun l => { m with techniques := l }
  | "categories" => texts.map fun l => { m with categories := l }
  | "confidence" =>
    (Yaml.readOption Confidence.read path y).map fun c => { m with confidence := c }
  | "contributors" => texts.map fun l => { m with contributors := l }
  | "references" => texts.map fun l => { m with references := l }
  | "created_date" => text.map fun s => { m with createdDate := s }
  | "updated_date" => text.map fun s => { m with updatedDate := s }
  | _ => .ok m

/-- Reads metadata. -/
def read : Yaml.Reader Metadata :=
  Yaml.readRecord formatName fieldNames requiredFields setField Yaml.ignoreField
    ⟨.zero, "", none, [], [], [], [], none, [], [], none, none⟩

end Metadata

namespace Analytic

/-- What has been read of an analytic; custom fields stand in the order of the document. -/
structure Draft where
  metadata : Option Metadata := none
  query : Option Query := none
  customFields : List (String × Datum) := []

/-- The fields that are known. -/
def metadataField : String := "metadata"

@[inherit_doc metadataField]
def queryField : String := "query"

/-- How messages call an analytic. -/
def formatName : String := "struct Analytic"

/-- Reads a query. An error in it names no path. -/
def readQuery : Yaml.Reader Query := fun path y => do
  match Query.read? (← Yaml.readText path y) with
  | .ok q => return q
  | .error e => .error (.mismatch [] e.message)

/-- Reads the value of a known field. -/
def setField (field : String) (d : Draft) : Yaml.Reader Draft := fun path y =>
  if field = metadataField then (Metadata.read path y).map fun m => { d with metadata := some m }
  else (readQuery path y).map fun q => { d with query := some q }

/-- Reads the value of a custom field. -/
def addCustomField (field : String) (d : Draft) : Yaml.Reader Draft := fun path y => do
  let datum ← Datum.read path y
  return { d with customFields := d.customFields ++ [(field, datum)] }

/-- Custom fields in the order of their names; of two with one name the later counts. -/
def sortFields (fields : List (String × Datum)) : List (String × Datum) :=
  fields.foldl (fun sorted (name, datum) => Json.insert name datum sorted) []

/-- Reads an analytic. -/
def read : Yaml.Reader Analytic := fun path y => do
  let d ← Yaml.readRecord formatName [metadataField, queryField] [] setField addCustomField {} path y
  match d.metadata, d.query with
  | none, _ => .error (Yaml.missingField metadataField path)
  | _, none => .error (Yaml.missingField queryField path)
  | some m, some q =>
    match Datum.repeatedInItems? (d.customFields.map (·.2)) with
    | some key => .error (.mismatch [] ("duplicate entry " ++ key.describeKey))
    | none => return ⟨m, q, sortFields d.customFields⟩

/-- Reads a text that holds an analytic. -/
def ofYaml? (text : String) : Except YamlError Analytic := Yaml.readDocument read text

end Analytic

/-! ### Writing -/

/-- A list of texts as a field, if it is not empty. -/
def Datum.ofTexts (field : String) (l : List String) : List (Datum × Datum) :=
  if l.isEmpty then [] else [(.text field, .sequence (l.map .text))]

/-- A text as a field, if it is there. -/
def Datum.ofText (field : String) (s : Option String) : List (Datum × Datum) :=
  s.toList.map fun s => (.text field, .text s)

/-- The document of metadata. -/
def Metadata.toDatum (m : Metadata) : Datum :=
  .mapping ([(.text "id", .text m.id.render), (.text "name", .text m.name)] ++
    Datum.ofText "description" m.description ++ Datum.ofTexts "os" m.os ++
    Datum.ofTexts "tactics" m.tactics ++ Datum.ofTexts "techniques" m.techniques ++
    Datum.ofTexts "categories" m.categories ++
    Datum.ofText "confidence" (m.confidence.map Confidence.name) ++
    Datum.ofTexts "contributors" m.contributors ++ Datum.ofTexts "references" m.references ++
    Datum.ofText "created_date" m.createdDate ++ Datum.ofText "updated_date" m.updatedDate)

namespace Analytic

/-- The document of an analytic. -/
def toDatum (a : Analytic) : Datum :=
  .mapping ([(.text metadataField, a.metadata.toDatum), (.text queryField, .text a.query.source)] ++
    a.customFields.map fun (name, datum) => (.text name, datum))

/-- Reads an analytic again from what it is written to. -/
def reload? (a : Analytic) : Except YamlError Analytic := read [] a.toDatum.toYaml

end Analytic

end Vigil
