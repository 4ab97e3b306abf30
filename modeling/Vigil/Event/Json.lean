import Vigil.Event.Basic
import Vigil.Json.Mismatch

/-! # Events from JSON

Every JSON value is the value of a field: whole numbers that fit 64 bits with a sign are integers, larger
ones that fit without a sign are unsigned, and all others are floating point numbers. An event is an
object. Values are taken part by part (`Value.ofJson?`), and the first part that is none would be an error. -/

namespace Vigil

open Vigil.Decimal

/-- Why a JSON value is not what it is taken for. -/
inductive ConversionError
  | notScalar (value : Json)
  | notRecord

/-- The message of an error. -/
def ConversionError.message : ConversionError → String
  | .notScalar (.number n) => n.render ++ " is not a valid field value"
  | .notScalar value => value.describe ++ " is not a valid field value"
  | .notRecord => "Events must be plain key value mappings"

namespace JsonNumber

/-- A number as one of 64 bits with a sign, if it is whole and fits. -/
def toInt64? : JsonNumber → Option Int64
  | .whole n => if n.toNat < Nat.pow 2 63 then some (Int64.ofNat n.toNat) else none
  | .negative i => some i
  | .float _ => none

/-- A number as one of 64 bits without a sign, if it is whole and written without one. -/
def toUInt64? : JsonNumber → Option UInt64
  | .whole n => some n
  | _ => none

/-- A number as one with a floating point, rounded if it is whole. -/
def toBinary64? : JsonNumber → Option Binary64
  | .whole n => some (Binary64.ofNat n.toNat)
  | .negative i => some (Binary64.ofNat i.toInt.natAbs).neg
  | .float f => some f

end JsonNumber

/-- The scalar of a number, of the first kind that it fits. -/
def Scalar.ofNumber? (n : JsonNumber) : Except ConversionError Scalar :=
  match n.toInt64? with
  | some i => .ok (.int i)
  | none =>
    match n.toUInt64? with
    | some u => .ok (.unsigned u)
    | none =>
      match n.toBinary64? with
      | some f => .ok (.float f)
      | none => .error (.notScalar (.number n))

/-- The scalar of a number. -/
def Scalar.ofNumber : JsonNumber → Scalar
  | .whole n => if n.toNat < Nat.pow 2 63 then .int (Int64.ofNat n.toNat) else .unsigned n
  | .negative i => .int i
  | .float f => .float f

/-- The scalar of a JSON value without parts. -/
def Scalar.ofJson? : Json → Except ConversionError Scalar
  | .null => .ok .null
  | .boolean b => .ok (.boolean b)
  | .number n => Scalar.ofNumber? n
  | .text s => .ok (.text s)
  | value => .error (.notScalar value)

namespace Value

mutual

/-- The value of a JSON value, if each of its parts is one. -/
def ofJson? : Json → Except ConversionError Value
  | .array items => (ofItems? items).map .sequence
  | .object members => (setMembers? [] members).map .record
  | v => (Scalar.ofJson? v).map .scalar

/-- The values of the items of an array. -/
def ofItems? : List Json → Except ConversionError (List Value)
  | [] => .ok []
  | v :: vs => do
    let value ← ofJson? v
    let values ← ofItems? vs
    return value :: values

/-- Sets the fields for the members of an object. -/
def setMembers? (fields : Fields) : List (String × Json) → Except ConversionError Fields
  | [] => .ok fields
  | (name, v) :: ms => do
    let value ← ofJson? v
    setMembers? (fields.insert name value) ms

end

mutual

/-- The value of a JSON value. -/
def ofJson : Json → Value
  | .null => .scalar .null
  | .boolean b => .scalar (.boolean b)
  | .number n => .scalar (.ofNumber n)
  | .text s => .text s
  | .array items => .sequence (ofItems items)
  | .object members => .record (ofMembers members)

/-- The values of the items of an array. -/
def ofItems : List Json → List Value
  | [] => []
  | v :: vs => ofJson v :: ofItems vs

/-- The fields of the members of an object. -/
def ofMembers : List (String × Json) → List (String × Value)
  | [] => []
  | (name, v) :: ms => (name, ofJson v) :: ofMembers ms

end

end Value

namespace Event

/-- The event of a JSON object. -/
def ofJson? : Json → Except ConversionError Event
  | .object members => (Value.setMembers? [] members).map Event.mk
  | _ => .error .notRecord

/-- How messages call an event. -/
def formatName : String := "struct EventProxy"

/-- Reads an event; `depth` arrays are open. -/
def fromJson? (depth : Nat) (cs : List Char) : Except JsonError (Event × List Char) :=
  match Json.skipBlanks cs with
  | '\x7b' :: rest => do
    let (value, rest) ← Json.value? (Json.fuelOf cs) depth ('\x7b' :: rest)
    match ofJson? value with
    | .ok event => return (event, rest)
    | .error e => .error (.mismatch e.message)
  | cs => .error (Json.mismatch formatName cs)

/-- Reads a text that holds one event. -/
def read? (text : String) : Except JsonError Event := do
  let (event, rest) ← fromJson? 0 text.toList
  Json.atEnd rest
  return event

/-- Reads the events of an array up to its end. The fuel is more than their number. -/
def itemsFrom : Nat → Bool → List Char → Except JsonError (List Event × List Char)
  | 0, _, _ => .error .endsEarly
  | fuel + 1, first, cs => do
    let (more, rest) ← Json.nextItem? first cs
    if more then
      let (event, rest) ← fromJson? 1 rest
      let (events, rest) ← itemsFrom fuel false rest
      return (event :: events, rest)
    else return ([], rest)

/-- Reads a text that holds an array of events. -/
def readAll? (text : String) : Except JsonError (List Event) := do
  match Json.skipBlanks text.toList with
  | '[' :: rest => do
    let (events, rest) ← itemsFrom (rest.length + 2) true rest
    Json.atEnd rest
    return events
  | cs => .error (Json.mismatch "a sequence" cs)

end Event

end Vigil
