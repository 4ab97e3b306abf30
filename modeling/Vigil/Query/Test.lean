import Vigil.Event.Basic
import Vigil.Pattern.Basic
import Vigil.Query.Error
import Vigil.Query.Token

/-! # Tests

A test is the smallest part of a query: it looks at one field of an event. `Form` says how it is written,
and `Form.operands?` what the field's value is compared with: texts with patterns, all else with scalars of
the same kind. A test holds when one of the scalars in the value satisfies one of the operands; a test that
a value is unequal holds when the field is there and this is not so. -/

namespace Vigil.Query

open Vigil.Pattern Vigil.Text

/-- The functions that compare a field with patterns. -/
inductive Function
  | wildcard
  | regex
  | startsWith
  | endsWith
  | contains
deriving DecidableEq

namespace Function

/-- All functions. -/
def all : List Function := [.wildcard, .regex, .startsWith, .endsWith, .contains]

/-- The name of a function. -/
def name : Function → String
  | .wildcard => "wildcard"
  | .regex => "match"
  | .startsWith => "startsWith"
  | .endsWith => "endsWith"
  | .contains => "stringContains"

/-- The pattern that a function makes of its argument. -/
def pattern? : Function → String → Bool → Option Pattern
  | .wildcard, s, cased => Pattern.wildcard? s.toList cased
  | .regex, s, cased => Pattern.regex? s.toList cased
  | .startsWith, s, cased => Pattern.startsWith? s.toList cased
  | .endsWith, s, cased => Pattern.endsWith? s.toList cased
  | .contains, s, cased => Pattern.contains? s.toList cased

end Function

/-- A function as it is called: with a tilde, case does not count. -/
structure Call where
  function : Function
  cased : Bool
deriving DecidableEq

/-- A call as it is written. -/
def Call.render (call : Call) : String :=
  if call.cased then call.function.name else call.function.name ++ "~"

/-- The call of a name, in any case, with or without a tilde. -/
def Call.ofName? (name : String) : Option Call :=
  let (cs, cased) := match name.toList.reverse with
    | '~' :: rest => (rest.reverse, false)
    | _ => (name.toList, true)
  (Function.all.find? fun f => equalIgnoringAsciiCase f.name (String.ofList cs)).map (⟨·, cased⟩)

/-- How a test is written, apart from the name of its field. -/
inductive Form
  | compare (comparison : Comparison) (value : Literal)
  | member (cased : Bool) (values : List Literal)
  | call (call : Call) (arguments : List String)
  | option (name : String)
deriving DecidableEq

/-- What a value is compared with. -/
inductive Operand
  | pattern (p : Pattern)
  | scalar (s : Scalar)

namespace Operand

/-- Compares a scalar with an operand. -/
def compare : Operand → Scalar → Outcome
  | .pattern p, .text s => p.compare s.toList
  | .pattern _, _ => .absent
  | .scalar s, t => if s.equal t then .found else .absent

/-- Whether a scalar satisfies an operand. -/
def satisfiedBy (o : Operand) (s : Scalar) : Bool := o.compare s = .found

end Operand

namespace Form

/-- The operand of a literal in which stars stand for any text. -/
def wildcardOperand? (cased : Bool) : Literal → Option Operand
  | .text s => (Pattern.wildcard? s.toList cased).map .pattern
  | value => some (.scalar value.scalar)

/-- The operand of a literal that stands for itself. -/
def exactOperand (cased : Bool) : Literal → Operand
  | .text s => .pattern (Pattern.ofText s.toList cased)
  | value => .scalar value.scalar

/-- What a field is compared with. -/
def operands? : Form → Option (List Operand)
  | .compare comparison value =>
    (wildcardOperand? (comparison != .similar) value).map fun o => [o]
  | .member cased values => some (values.map (exactOperand cased))
  | .call f arguments => arguments.mapM fun s => (f.function.pattern? s f.cased).map .pattern
  | .option name => some [.pattern (Pattern.ofText name.toList false)]

/-- Whether a test asks for a value that does not satisfy its operands. -/
def isNegated : Form → Bool
  | .compare .unequal _ => true
  | _ => false

/-- A test as it is written. -/
def render (field : String) : Form → String
  | .compare comparison value => field ++ " " ++ comparison.sign ++ " " ++ value.render
  | .member cased values =>
    field ++ " " ++ memberWord cased ++ " (" ++ ", ".intercalate (values.map Literal.render) ++ ")"
  | .call f arguments =>
    f.render ++ "(" ++ ", ".intercalate (field :: arguments.map quoted) ++ ")"
  | .option name => field ++ "." ++ name

end Form

/-- A test of one field, with the operands that its form gives. -/
structure Test where
  field : String
  form : Form
  operands : List Operand
  operands_eq : form.operands? = some operands

end Vigil.Query

/-! ### Scalars of a value -/

namespace Vigil.Value

mutual

/-- The scalars that are reached through sequences only, in order. -/
def scalars : Value → List Scalar
  | .scalar s => [s]
  | .sequence items => scalarsOf items
  | .record _ => []

/-- The scalars of several values. -/
def scalarsOf : List Value → List Scalar
  | [] => []
  | v :: vs => v.scalars ++ scalarsOf vs

end

end Vigil.Value

namespace Vigil.Query.Test

/-- The test of a field in a given form. -/
def ofForm? (field : String) (form : Form) : Except QueryError Test :=
  match h : form.operands? with
  | some operands => .ok ⟨field, form, operands, h⟩
  | none => .error .invalidPattern

/-- A test as it is written. -/
def render (t : Test) : String := t.form.render t.field

mutual

/-- Whether a value satisfies some operand: a scalar by itself, a sequence with some item, a record never. -/
def satisfiedBy (t : Test) : Value → Bool
  | .scalar s => t.operands.any fun o => o.satisfiedBy s
  | .sequence items => t.satisfiedByItem items
  | .record _ => false

/-- Whether some item satisfies some operand. -/
def satisfiedByItem (t : Test) : List Value → Bool
  | [] => false
  | v :: vs => t.satisfiedBy v || t.satisfiedByItem vs

end

/-- Whether an event passes the test; without the field it does not. -/
def holds (t : Test) (e : Event) : Bool :=
  match e.find? t.field with
  | none => false
  | some v => t.satisfiedBy v != t.form.isNegated

/-- The number of searches that are given up before one succeeds. -/
def giveUpsAmong : List (Operand × Scalar) → Nat
  | [] => 0
  | (o, s) :: rest =>
    match o.compare s with
    | .found => 0
    | .absent => giveUpsAmong rest
    | .gaveUp => giveUpsAmong rest + 1

/-- The number of searches that are given up when an event is tested. -/
def giveUps (t : Test) (e : Event) : Nat :=
  match e.find? t.field with
  | none => 0
  | some v => giveUpsAmong (v.scalars.flatMap fun s => t.operands.map fun o => (o, s))

end Vigil.Query.Test
