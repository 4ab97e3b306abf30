import Vigil.Decimal.Binary64

/-! # Values of event fields

A field of an event holds a scalar, a sequence of values or a record of named values. Scalars of different
kinds are never equal, so the integer 1 differs from the unsigned 1; floating point numbers are compared
numerically, so a value that is not a number differs even from itself. Records are equal when they have
the same names with equal values, in any order. -/

namespace Vigil

open Vigil.Decimal

/-- A value without parts. -/
inductive Scalar
  | text (s : String)
  | int (i : Int64)
  | unsigned (u : UInt64)
  | float (f : Binary64)
  | boolean (b : Bool)
  | null
deriving DecidableEq, Inhabited

/-- Equality of scalars: within one kind only, and numerical between floating point numbers. -/
def Scalar.equal : Scalar → Scalar → Bool
  | .text s, .text t => s == t
  | .int i, .int j => i == j
  | .unsigned u, .unsigned v => u == v
  | .float f, .float g => f.equal g
  | .boolean a, .boolean b => a == b
  | .null, .null => true
  | _, _ => false

/-- The characters of a text; other scalars have none. -/
def Scalar.text? : Scalar → Option String
  | .text s => some s
  | _ => none

/-- A scalar, a sequence of values or a record of named values. -/
inductive Value
  | scalar (s : Scalar)
  | sequence (items : List Value)
  | record (fields : List (String × Value))
deriving Inhabited

namespace Value

/-- A text as a value. -/
def text (s : String) : Value := .scalar (.text s)

/-- The characters of a text; other values have none. -/
def text? : Value → Option String
  | .scalar s => s.text?
  | _ => none

mutual

/-- Equality of values. -/
def equal : Value → Value → Bool
  | .scalar s, .scalar t => s.equal t
  | .sequence vs, .sequence ws => equalItems vs ws
  | .record fs, .record gs => fs.length == gs.length && equalFields fs gs
  | _, _ => false

/-- Equality of sequences, item by item. -/
def equalItems : List Value → List Value → Bool
  | [], [] => true
  | v :: vs, w :: ws => v.equal w && equalItems vs ws
  | _, _ => false

/-- Whether each of the fields has an equal one of the same name among the others. -/
def equalFields : List (String × Value) → List (String × Value) → Bool
  | [], _ => true
  | (name, v) :: fs, gs =>
    (match gs.lookup name with
      | some w => v.equal w
      | none => false) && equalFields fs gs

end

end Value

/-! ### Fields -/

/-- Named values, each name at most once. -/
abbrev Fields := List (String × Value)

namespace Fields

/-- Sets the value of a name, in its place if the name is there and at the end otherwise. -/
def insert (name : String) (value : Value) : Fields → Fields
  | [] => [(name, value)]
  | (other, old) :: rest =>
    if other = name then (name, value) :: rest else (other, old) :: insert name value rest

/-- Fields from pairs; of two with one name the later counts. -/
def ofPairs (pairs : List (String × Value)) : Fields :=
  pairs.foldl (fun fields (name, value) => fields.insert name value) []

end Fields

end Vigil
