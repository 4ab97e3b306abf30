import Vigil.Decimal.Shortest
import Vigil.Event.Value
import Vigil.Text.Quoted

/-! # Values in messages

Messages show a value with the name of its kind around it, so that the text `12` and the number 12 are
told apart: `Value(String("12"))` and `Value(Int(12))`. -/

namespace Vigil

open Vigil.Decimal Vigil.Text

/-- Numbers in messages are positional from `0.0001` up to, but not including, `1e16`. -/
def messageStyle : DecimalStyle := ⟨-3, 16⟩

/-- A scalar with the name of its kind. -/
def Scalar.describe : Scalar → String
  | .text s => "String(" ++ quoted s ++ ")"
  | .int i => "Int(" ++ toString i.toInt ++ ")"
  | .unsigned u => "Unsigned(" ++ toString u.toNat ++ ")"
  | .float f => "Float(" ++ messageStyle.render f ++ ")"
  | .boolean b => "Boolean(" ++ (if b then "true" else "false") ++ ")"
  | .null => "Null"

namespace Value

/-- An order in which the fields of records are shown, each with its name and its text. A record has no order
of its own, and the same record may be shown in several. -/
structure FieldOrder where
  arrange : List (String × String) → List (String × String)
  perm : ∀ fields, (arrange fields).Perm fields

/-- The order in which the fields are listed. -/
def FieldOrder.listed : FieldOrder := ⟨id, List.Perm.refl⟩

mutual

/-- A value with the names of the kinds in it, its records in some order. -/
def describe (order : FieldOrder) : Value → String
  | .scalar s => "Value(" ++ s.describe ++ ")"
  | .sequence items => "Sequence([" ++ ", ".intercalate (describeItems order items) ++ "])"
  | .record fields =>
    let shown := (order.arrange (describeFields order fields)).map fun (name, text) =>
      quoted name ++ ": " ++ text
    "Map(\x7b" ++ ", ".intercalate shown ++ "\x7d)"

/-- The items of a sequence. -/
def describeItems (order : FieldOrder) : List Value → List String
  | [] => []
  | v :: vs => v.describe order :: describeItems order vs

/-- The fields of a record. -/
def describeFields (order : FieldOrder) : List (String × Value) → List (String × String)
  | [] => []
  | (name, v) :: fs => (name, v.describe order) :: describeFields order fs

end

end Value

end Vigil
