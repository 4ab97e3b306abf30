import Vigil.Decimal.Shortest
import Vigil.Text.Quoted

/-! # JSON values

Objects keep their members in the order of their names, each name once. A number is a whole number of 64
bits, with or without a sign, or else a floating point number. -/

namespace Vigil

open Vigil.Decimal Vigil.Text

/-- A number: whole, negative and whole, or neither. -/
inductive JsonNumber
  | whole (n : UInt64)
  | negative (i : Int64)
  | float (f : Binary64)
deriving DecidableEq, Inhabited

/-- A JSON value. -/
inductive Json
  | null
  | boolean (b : Bool)
  | number (n : JsonNumber)
  | text (s : String)
  | array (items : List Json)
  | object (members : List (String × Json))
deriving Inhabited

/-- Numbers are positional from `0.00001` up to, but not including, `1e16`. -/
def JsonNumber.style : DecimalStyle := ⟨-4, 16⟩

/-- A number as it is written. -/
def JsonNumber.render : JsonNumber → String
  | .whole n => toString n.toNat
  | .negative i => toString i.toInt
  | .float f => style.render f

namespace Json

/-- Sets a member, in the order of the names. -/
def insert {α : Type} (name : String) (value : α) : List (String × α) → List (String × α)
  | [] => [(name, value)]
  | (other, old) :: rest =>
    if name = other then (name, value) :: rest
    else if name < other then (name, value) :: (other, old) :: rest
    else (other, old) :: insert name value rest

/-- An object from members; of two with one name the later counts. -/
def ofMembers (members : List (String × Json)) : Json :=
  .object (members.foldl (fun sorted (name, value) => insert name value sorted) [])

mutual

/-- A value with the names of the kinds in it. -/
def describe : Json → String
  | .null => "Null"
  | .boolean b => "Bool(" ++ (if b then "true" else "false") ++ ")"
  | .number n => "Number(" ++ n.render ++ ")"
  | .text s => "String(" ++ quoted s ++ ")"
  | .array items => "Array [" ++ ", ".intercalate (describeItems items) ++ "]"
  | .object members => "Object \x7b" ++ ", ".intercalate (describeMembers members) ++ "\x7d"

/-- The items of an array. -/
def describeItems : List Json → List String
  | [] => []
  | v :: vs => v.describe :: describeItems vs

/-- The members of an object. -/
def describeMembers : List (String × Json) → List String
  | [] => []
  | (name, v) :: ms => (quoted name ++ ": " ++ v.describe) :: describeMembers ms

end

end Json

end Vigil
