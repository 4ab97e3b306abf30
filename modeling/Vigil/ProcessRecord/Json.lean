import Vigil.Json.Mismatch
import Vigil.ProcessRecord.Basic

/-! # Process records from JSON

A record is read from an object, whose further members are passed over, or from an array of the attributes
in order, which may end early. An attribute that is no text counts as missing, but none may be given
twice. -/

namespace Vigil.ProcessRecord

/-- The text of a value; all other values have none. -/
def textOf : Json → Option String
  | .text s => some s
  | _ => none

/-- Reads the members of an object up to its end; `given` are the attributes read so far. -/
def membersFrom : Nat → Bool → List String → ProcessRecord → List Char →
    Except JsonError (ProcessRecord × List Char)
  | 0, _, _, _, _ => .error .endsEarly
  | fuel + 1, first, given, p, cs => do
    let (more, rest) ← Json.nextName? first cs
    if !more then return (p, rest)
    let (name, rest) ← Json.text? rest
    if given.contains name then .error (.mismatch ("duplicate field \x60" ++ name ++ "\x60"))
    else
      let rest ← Json.colon? rest
      if fieldNames.contains name then
        let (value, rest) ← Json.value? (Json.fuelOf rest) 1 rest
        membersFrom fuel false (name :: given) (p.set name (textOf value)) rest
      else
        let rest ← Json.skip? (Json.fuelOf rest) rest
        membersFrom fuel false given p rest

/-- Reads the items of an array for the given attributes, up to its end. -/
def itemsFrom (first : Bool) (p : ProcessRecord) (cs : List Char) :
    List String → Except JsonError (ProcessRecord × List Char)
  | [] =>
    match Json.skipBlanks cs with
    | [] => .error .endsEarly
    | ']' :: rest => .ok (p, rest)
    | _ => .error .malformed
  | name :: names => do
    let (more, rest) ← Json.nextItem? first cs
    if more then
      let (value, rest) ← Json.value? (Json.fuelOf rest) 1 rest
      itemsFrom false (p.set name (textOf value)) rest names
    else return (p, rest)

/-- Reads a text that holds one record. -/
def read? (text : String) : Except JsonError ProcessRecord := do
  let (p, rest) ← match Json.skipBlanks text.toList with
    | '\x7b' :: rest => membersFrom (rest.length + 2) true [] {} rest
    | '[' :: rest => itemsFrom true {} rest fieldNames
    | cs => .error (Json.mismatch formatName cs)
  Json.atEnd rest
  return p

end Vigil.ProcessRecord
