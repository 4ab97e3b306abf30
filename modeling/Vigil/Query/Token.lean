import Vigil.Event.Value
import Vigil.Text.Quoted

/-! # Tokens

The words and signs of a query. A literal is written in a query as it is rendered here. -/

namespace Vigil.Query

open Vigil.Text

/-- A value that a query can hold. -/
inductive Literal
  | text (s : String)
  | integer (i : Int64)
  | boolean (b : Bool)
  | null
deriving DecidableEq

/-- The scalar that a literal denotes. -/
def Literal.scalar : Literal → Scalar
  | .text s => .text s
  | .integer i => .int i
  | .boolean b => .boolean b
  | .null => .null

/-- A literal as it is written. -/
def Literal.render : Literal → String
  | .text s => quoted s
  | .integer i => toString i.toInt
  | .boolean b => if b then "true" else "false"
  | .null => "null"

/-- How a field is compared with a value: equal, not equal, or equal up to case. -/
inductive Comparison
  | equal
  | unequal
  | similar
deriving DecidableEq

/-- The sign of a comparison. -/
def Comparison.sign : Comparison → String
  | .equal => "=="
  | .unequal => "!="
  | .similar => ":"

/-- The word for membership in a list, with a tilde where case does not count. -/
def memberWord (cased : Bool) : String := if cased then "in" else "in~"

/-- A token of a query. -/
inductive Token
  | identifier (name : String)
  | literal (value : Literal)
  | negation
  | conjunction
  | disjunction
  | head
  | member (cased : Bool)
  | comparison (c : Comparison)
  | comma
  | opening
  | closing
deriving DecidableEq

/-- A token as messages show it. -/
def Token.render : Token → String
  | .identifier name => name
  | .literal value => value.render
  | .negation => "not"
  | .conjunction => "and"
  | .disjunction => "or"
  | .head => "where"
  | .member cased => memberWord cased
  | .comparison c => c.sign
  | .comma => ","
  | .opening => "("
  | .closing => ")"

end Vigil.Query
