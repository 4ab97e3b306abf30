import Vigil.Event.Value

/-! # Events

An event is a record of one thing that happened. Its fields are read by name, and a name with dots leads
into nested records: `find?` takes a name literally first, then splits it at its first dot and goes on
inside the record that the part before the dot names. The class of an event is the text in its field
`event_type`. -/

namespace Vigil

/-- A single log event. -/
structure Event where
  fields : Fields := []
deriving Inhabited

namespace Event

/-- The field that holds the class of an event. -/
def classField : String := "event_type"

/-- Looks up a dotted name below `fields`, `head` being the part read so far, last character first. -/
def descend (fields : Fields) (head : List Char) : List Char → Option Value
  | [] => none
  | c :: rest =>
    if c = '.' then
      match fields.lookup (String.ofList head.reverse) with
      | some (.record inner) =>
        match inner.lookup (String.ofList rest) with
        | some value => some value
        | none => descend inner [] rest
      | _ => none
    else descend fields (c :: head) rest

/-- The value of a name: of the field with exactly that name, or of the shallowest one that its dots
lead to. -/
def find? (event : Event) (name : String) : Option Value :=
  match event.fields.lookup name with
  | some value => some value
  | none => descend event.fields [] name.toList

/-- The text of a name, if its value is one. -/
def findText? (event : Event) (name : String) : Option String := (event.find? name).bind Value.text?

/-- Sets the value of a field. -/
def insert (event : Event) (name : String) (value : Value) : Event :=
  ⟨event.fields.insert name value⟩

/-- An event of a class, without other fields. -/
def ofClass (name : String) : Event := ⟨[(classField, .text name)]⟩

/-- The class of an event, if it carries one. -/
def class? (event : Event) : Option String :=
  (event.fields.lookup classField).bind Value.text?

end Event

end Vigil
