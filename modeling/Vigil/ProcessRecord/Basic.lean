import Vigil.Event.Basic
import Vigil.Text.Casing

/-! # Process records

What is recorded of a process when it is created or ends. Every attribute may be missing. A record is also
an event of the class `process`, without the fields that are missing. -/

namespace Vigil

open Vigil.Text

/-- The stage in the life of a process. -/
inductive Subtype
  | create
  | terminate
  | unknown
deriving DecidableEq

namespace Subtype

/-- All stages. -/
def all : List Subtype := [.create, .terminate, .unknown]

/-- The name of a stage. -/
def name : Subtype → String
  | .create => "create"
  | .terminate => "terminate"
  | .unknown => "unknown"

/-- The stage with a name, in any case. -/
def ofName? (s : String) : Option Subtype := all.find? fun t => equalIgnoringAsciiCase t.name s

/-- The stage with a name; other names are unknown. -/
def ofName (s : String) : Subtype := (ofName? s).getD .unknown

end Subtype

/-- A record of a process. -/
structure ProcessRecord where
  subtype : Option Subtype := none
  name : Option String := none
  commandLine : Option String := none
deriving DecidableEq

namespace ProcessRecord

/-- The class of the events of processes. -/
def className : String := "process"

/-- The names of the attributes. -/
def subtypeField : String := "subtype"

@[inherit_doc subtypeField]
def nameField : String := "process_name"

@[inherit_doc subtypeField]
def commandLineField : String := "command_line"

/-- The attributes in order, with their texts. -/
def attributes (p : ProcessRecord) : List (String × Option String) :=
  [(subtypeField, p.subtype.map Subtype.name), (nameField, p.name),
    (commandLineField, p.commandLine)]

/-- The event of a record. -/
def toEvent (p : ProcessRecord) : Event :=
  p.attributes.foldl (fun e (field, text) =>
    match text with
    | some s => e.insert field (.text s)
    | none => e) (.ofClass className)

/-- Sets the attribute with a name to a text, or to nothing. -/
def set (p : ProcessRecord) (field : String) (text : Option String) : ProcessRecord :=
  if field = subtypeField then { p with subtype := text.map Subtype.ofName }
  else if field = nameField then { p with name := text }
  else if field = commandLineField then { p with commandLine := text }
  else p

/-- The names of the attributes, in order. -/
def fieldNames : List String := [subtypeField, nameField, commandLineField]

/-- How messages call a record. -/
def formatName : String := "struct ProcessEvent"

end ProcessRecord

end Vigil
