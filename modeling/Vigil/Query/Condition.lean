import Vigil.Query.Test

/-! # Conditions

Tests joined by `not`, `and` and `or`. The rendering has brackets around every operand of these. -/

namespace Vigil.Query

/-- A condition on events. -/
inductive Condition
  | constant (b : Bool)
  | test (t : Test)
  | negation (c : Condition)
  | conjunction (c d : Condition)
  | disjunction (c d : Condition)

namespace Condition

/-- Whether a condition holds of an event. -/
def holds : Condition → Event → Bool
  | .constant b, _ => b
  | .test t, e => t.holds e
  | .negation c, e => !c.holds e
  | .conjunction c d, e => c.holds e && d.holds e
  | .disjunction c d, e => c.holds e || d.holds e

/-- The number of searches that are given up on the way to the answer. -/
def giveUps : Condition → Event → Nat
  | .constant _, _ => 0
  | .test t, e => t.giveUps e
  | .negation c, e => c.giveUps e
  | .conjunction c d, e => c.giveUps e + if c.holds e then d.giveUps e else 0
  | .disjunction c d, e => c.giveUps e + if c.holds e then 0 else d.giveUps e

/-- The tests, from left to right. -/
def tests : Condition → List Test
  | .constant _ => []
  | .test t => [t]
  | .negation c => c.tests
  | .conjunction c d => c.tests ++ d.tests
  | .disjunction c d => c.tests ++ d.tests

/-- The names of the fields that are tested, each once, in the order of their first tests. -/
def fields (c : Condition) : List String := (c.tests.map (·.field)).eraseDups

/-- A condition as it is written. -/
def render : Condition → String
  | .constant b => if b then "true" else "false"
  | .test t => t.render
  | .negation c => "not (" ++ c.render ++ ")"
  | .conjunction c d => "(" ++ c.render ++ " and " ++ d.render ++ ")"
  | .disjunction c d => "(" ++ c.render ++ " or " ++ d.render ++ ")"

end Condition

end Vigil.Query
