import Vigil.Event.Description
import Vigil.Normalizer.Mapping
import Vigil.Query.Basic
import Vigil.Timestamp.Resolution
import Vigil.Timestamp.Ticks

/-! # Normalizers

A normalizer brings the events of one source into a common form. It finds the class of an event, writes the
fields that its mappings and enums give, then the class and the timestamp; of two that write one field, the
later counts (`assignments`). They write over the fields of the event, or of the record in it that is the scope
of the normalizer, unless it is strict. Mappings read the scope; filters, enums and the timestamp read the
event. Only the timestamp can fail. -/

namespace Vigil

/-- Where the timestamp of an event is and how it is written. -/
structure TimestampSource where
  field : String
  format : String
deriving DecidableEq

/-- A class of events: which belong to it, and what is written for them. An enum names the field that it writes,
and options with their conditions. -/
structure EventClass where
  name : String
  filter : Query
  mappings : List (String × Mapping) := []
  enums : List (String × List (String × Query)) := []

/-- Brings events of one source into a common form. -/
structure Normalizer where
  name : String
  domain : Option String := none
  strict : Bool := false
  timestamp : Option TimestampSource := none
  scope : Option String := none
  mappings : List (String × Mapping) := []
  classes : List EventClass := []

/-! ### Timestamps -/

/-- What an error shows of a timestamp: a text as it is, or a value with the kind of value that it is. -/
inductive Shown
  | text (s : String)
  | value (v : Value)

/-- What is shown, with the fields of records in some order. -/
def Shown.render (order : Value.FieldOrder) : Shown → String
  | .text s => s
  | .value v => v.describe order

/-- Why an event is not brought into the common form. -/
inductive NormalizationError
  | missingTimestamp (field source : String)
  | invalidTimestamp (shown : Shown) (format : String)

/-- The message of an error; records in it are shown in some order. -/
def NormalizationError.message (e : NormalizationError) (order : Value.FieldOrder := .listed) : String :=
  match e with
  | .missingTimestamp field source =>
    "Missing timestamp field '" ++ field ++ "', check that the input comes from " ++ source
  | .invalidTimestamp shown format =>
    "Timestamp '" ++ shown.render order ++ "' does not match the format '" ++ format ++ "'"

namespace TimestampSource

/-- The format of timestamps that are ticks already. -/
def ticksFormat : String := "filetime"

/-- The timestamp of a value, in ticks unless it is to be kept. A text that is no timestamp is shown as it is,
anything else with the kind of value that it is. -/
def convert (t : TimestampSource) (v : Value) : Except NormalizationError Value :=
  if t.format = ticksFormat then .ok v
  else match v.text? with
    | none => .error (.invalidTimestamp (.value v) t.format)
    | some text =>
      match Timestamp.moment? t.format text with
      | none => .error (.invalidTimestamp (.text text) t.format)
      | some moment =>
        match moment.ticks? with
        | none => .error (.invalidTimestamp (.value v) t.format)
        | some ticks => .ok (.scalar (.int ticks))

/-- The timestamp of an event from a source. -/
def read (t : TimestampSource) (source : String) (e : Event) : Except NormalizationError Value :=
  match e.find? t.field with
  | none => .error (.missingTimestamp t.field source)
  | some v => t.convert v

end TimestampSource

/-! ### Classes -/

/-- What mappings write. -/
def mappedFields (mappings : List (String × Mapping)) (e : Event) : Fields :=
  mappings.filterMap fun (target, m) => (m.value? e).map fun v => (target, v)

/-- The first option whose condition selects an event. -/
def selectedOption? (options : List (String × Query)) (e : Event) : Option String :=
  (options.find? fun (_, condition) => condition.selects e).map (·.1)

namespace EventClass

/-- What the enums of a class write. -/
def enumFields (c : EventClass) (e : Event) : Fields :=
  c.enums.filterMap fun (target, options) =>
    (selectedOption? options e).map fun option => (target, .text option)

end EventClass

namespace Normalizer

/-- The class of events of which none is known. -/
def genericClass : String := "generic"

/-- The field that holds a timestamp. -/
def timestampField : String := "timestamp"

/-- The names of the classes, in the order in which they are tried. -/
def classNames (n : Normalizer) : List String := n.classes.map (·.name)

/-- The class that an event names, if it is known. -/
def namedClass? (n : Normalizer) (e : Event) : Option EventClass :=
  e.class?.bind fun name => n.classes.find? fun c => c.name == name

/-- The class of an event: the one that it names, or else the first whose filter selects it. -/
def class? (n : Normalizer) (e : Event) : Option EventClass :=
  match n.namedClass? e with
  | some c => some c
  | none => n.classes.find? fun c => c.filter.selects e

/-- What mappings read of an event: all of it, or the record that is the scope. -/
def visible (n : Normalizer) (e : Event) : Event :=
  match n.scope with
  | none => e
  | some scope =>
    match e.find? scope with
    | some (.record fields) => ⟨fields⟩
    | _ => {}

/-- The fields that are written over. -/
def base (n : Normalizer) (e : Event) : Event := if n.strict then {} else n.visible e

/-- The timestamp of an event, if there is to be one. -/
def timestamp? (n : Normalizer) (e : Event) : Except NormalizationError (Option Value) :=
  match n.timestamp with
  | none => .ok none
  | some t => (t.read n.name e).map some

/-- What is written for the class of an event. -/
def classAssignments (n : Normalizer) (e : Event) : Fields :=
  match n.class? e with
  | none => []
  | some c => c.enumFields e ++ mappedFields c.mappings (n.visible e)

/-- What is written for an event with a timestamp, in the order in which it is written. -/
def assignments (n : Normalizer) (e : Event) (timestamp : Option Value) : Fields :=
  mappedFields n.mappings (n.visible e) ++ n.classAssignments e ++
    [(Event.classField, .text (((n.class? e).map (·.name)).getD genericClass))] ++
    (timestamp.map fun t => (timestampField, t)).toList

/-- Brings an event into the common form. -/
def normalize (n : Normalizer) (e : Event) : Except NormalizationError Event := do
  let timestamp ← n.timestamp? e
  return (n.assignments e timestamp).foldl (fun e (target, v) => e.insert target v) (n.base e)

/-! ### Searches that are given up -/

/-- The number of searches that are given up until one of some conditions selects an event. -/
def giveUpsUntil (e : Event) : List Query → Nat
  | [] => 0
  | condition :: others =>
    condition.giveUps e + if condition.selects e then 0 else giveUpsUntil e others

/-- The number of searches that are given up on the way to the common form. -/
def giveUps (n : Normalizer) (e : Event) : Nat :=
  match n.timestamp? e with
  | .error _ => 0
  | .ok _ =>
    let filters := match n.namedClass? e with
      | some _ => 0
      | none => giveUpsUntil e (n.classes.map (·.filter))
    let enums := (n.class? e).map fun c =>
      (c.enums.map fun (_, options) => giveUpsUntil e (options.map (·.2))).foldl (· + ·) 0
    filters + enums.getD 0

end Normalizer

end Vigil
