import Vigil.ProcessRecord.Basic
import Vigil.Yaml.Datum

/-! # Process records from YAML

A record is read from a mapping, whose further fields are passed over. An attribute that denotes no text counts
as missing, but none may be given twice. -/

namespace Vigil.ProcessRecord

/-- The text that a datum is; all other data have none. -/
def textOfDatum : Datum → Option String
  | .text s => some s
  | _ => none

/-- Reads the value of an attribute. -/
def setField (field : String) (p : ProcessRecord) : Yaml.Reader ProcessRecord := fun path y => do
  let datum ← Yaml.readOption Datum.read path y
  return p.set field (datum.bind textOfDatum)

/-- Reads a text that holds one record as YAML. -/
def ofYaml? (text : String) : Except YamlError ProcessRecord :=
  Yaml.readDocument (Yaml.readRecord formatName fieldNames [] setField Yaml.ignoreField {}) text

end Vigil.ProcessRecord
