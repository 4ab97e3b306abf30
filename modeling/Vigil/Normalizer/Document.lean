import Vigil.Normalizer.Description
import Vigil.Yaml.Reader

/-! # Normalizers as documents

A normalizer is read from a mapping with its name, and optionally a domain, whether it is strict, where the
timestamp is, its mappings with their scope, and its classes of events in the order in which they are tried.
Further fields are passed over. -/

namespace Vigil

open Vigil.Yaml

/-- Reads a list of texts with their names, keeping the order. -/
def readTexts : Yaml.Reader (List (String × String)) := Yaml.readEntries Yaml.readText

namespace TimestampSource

/-- Reads where the timestamp is; both its fields have to be there. -/
def readField (field : String) (t : TimestampSource) : Yaml.Reader TimestampSource := fun path y =>
  match field with
  | "field" => (Yaml.readText path y).map fun s => { t with field := s }
  | _ => (Yaml.readText path y).map fun s => { t with format := s }

/-- Reads where the timestamp is. -/
def ofYaml : Yaml.Reader TimestampSource :=
  Yaml.readRecord "struct TimestampProxy" ["field", "format"] ["field", "format"] readField Yaml.ignoreField
    ⟨"", ""⟩

end TimestampSource

namespace EventClassDescription

/-- Reads a field of a class. -/
def readField (field : String) (d : EventClassDescription) : Yaml.Reader EventClassDescription :=
  fun path y =>
  match field with
  | "filter" => (Yaml.readText path y).map fun s => { d with filter := s }
  | "mapping" => (readTexts path y).map fun l => { d with mappings := l }
  | _ => (Yaml.readEntries readTexts path y).map fun l => { d with enums := l }

/-- Reads a class. -/
def ofYaml : Yaml.Reader EventClassDescription :=
  Yaml.readRecord "struct EventProxy" ["filter", "mapping", "enum"] ["filter"] readField Yaml.ignoreField {}

end EventClassDescription

namespace NormalizerDescription

/-- Reads the mappings for all classes, or their scope. -/
def readMappingField (field : String) (d : NormalizerDescription) : Yaml.Reader NormalizerDescription :=
  fun path y =>
  match field with
  | "mapping" => (readTexts path y).map fun l => { d with mappings := l }
  | _ => (Yaml.readOption Yaml.readText path y).map fun s => { d with scope := s }

/-- Reads a field of a normalizer. -/
def readField (field : String) (d : NormalizerDescription) : Yaml.Reader NormalizerDescription :=
  fun path y =>
  match field with
  | "name" => (Yaml.readText path y).map fun s => { d with name := s }
  | "domain" => (Yaml.readOption Yaml.readText path y).map fun s => { d with domain := s }
  | "strict" => (Yaml.readBoolean path y).map fun b => { d with strict := b }
  | "timestamp" =>
    (Yaml.readOption TimestampSource.ofYaml path y).map fun t => { d with timestamp := t }
  | "fields" =>
    Yaml.readRecord "struct FieldsProxy" ["mapping", "scope"] [] readMappingField Yaml.ignoreField d path y
  | _ => (Yaml.readEntries EventClassDescription.ofYaml path y).map fun l => { d with classes := l }

/-- Reads a description. -/
def ofYaml : Yaml.Reader NormalizerDescription :=
  Yaml.readRecord "struct NormalizerProxy" ["name", "domain", "strict", "timestamp", "fields", "events"]
    ["name"] readField Yaml.ignoreField {}

end NormalizerDescription

namespace Normalizer

/-- Reads a normalizer. An error in what is written names no path. -/
def read : Yaml.Reader Normalizer := fun path y => do
  let d ← NormalizerDescription.ofYaml path y
  d.toNormalizer?.mapError fun e => .mismatch [] e.message

/-- Reads a text that holds a normalizer. -/
def ofYaml? (text : String) : Except YamlError Normalizer := Yaml.readDocument read text

end Normalizer

end Vigil
