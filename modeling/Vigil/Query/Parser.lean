import Vigil.Query.Condition

/-! # Reading conditions

`condition?` reads a whole list of tokens. Operators have powers: `expression?` reads an operand and joins to it what
the operators after it bind, as long as these have at least the power that it is given; `or` binds weaker than `and`,
and `and` weaker than `not`. The operand after an operator is read with the operator's own power, so that both `and` and
`or` join to the right. After each operand there has to be an `and`, an `or`, a closing bracket or the end.

The fuel of the readers is two more than two for each token: one for an expression that begins there, and one for its
first operand or for the operator. -/

namespace Vigil.Query

/-- What a reader gives: a part of the query and the tokens after it. -/
abbrev Parsed (α : Type) := α × List Token

/-- Reads a literal after an operator. -/
def literal? (operator : Token) : List Token → Except QueryError (Parsed Literal)
  | [] => .error .unexpectedEnd
  | .literal value :: rest => .ok (value, rest)
  | t :: _ => .error (.invalidLiteral operator.render t.render)

/-- Reads the further literals of a list, up to its closing bracket. -/
def literals? (operator : Token) : List Token → Except QueryError (Parsed (List Literal))
  | .closing :: rest => .ok ([], rest)
  | .comma :: .literal value :: rest =>
    (literals? operator rest).map fun (values, rest) => (value :: values, rest)
  | .comma :: rest => (literal? operator rest).map fun (value, rest) => ([value], rest)
  | _ => .error .missingClosing

/-- Reads the patterns of a call, up to its closing bracket. -/
def arguments? (function : String) : List Token → Except QueryError (Parsed (List String))
  | .closing :: rest => .ok ([], rest)
  | .comma :: .literal (.text s) :: rest =>
    (arguments? function rest).map fun (texts, rest) => (s :: texts, rest)
  | .comma :: _ => .error (.invalidArguments function)
  | _ => .error .missingClosing

/-- Splits a name at its last dot. -/
def splitAtLastDot (name : String) : Option (String × String) :=
  let cs := name.toList.reverse
  match cs.dropWhile (· != '.') with
  | [] => none
  | _ :: before =>
    some (String.ofList before.reverse, String.ofList (cs.takeWhile (· != '.')).reverse)

/-- Reads the rest of a test that begins with a name. -/
def form? (name : String) : List Token → Except QueryError (Parsed (String × Form))
  | .comparison c :: rest =>
    (literal? (.comparison c) rest).map fun (value, rest) => ((name, .compare c value), rest)
  | .member cased :: .opening :: rest => do
    let (value, rest) ← literal? (.member cased) rest
    let (values, rest) ← literals? (.member cased) rest
    return ((name, .member cased (value :: values)), rest)
  | .member cased :: _ => .error (.unexpectedToken (memberWord cased))
  | .opening :: rest =>
    match Call.ofName? name, rest with
    | none, _ => .error (.unknownFunction name)
    | some call, .identifier field :: rest => do
      let (arguments, rest) ← arguments? name rest
      if arguments.isEmpty then .error (.invalidArguments call.render)
      else return ((field, .call call arguments), rest)
    | some _, _ => .error (.invalidArguments name)
  | rest =>
    match splitAtLastDot name with
    | some (field, option) =>
      if field.isEmpty || option.isEmpty then .error (.unexpectedToken name)
      else .ok ((field, .option option), rest)
    | none => .error (.unexpectedToken name)

/-- Reads a test that begins with a name. -/
def test? (name : String) (tokens : List Token) : Except QueryError (Parsed Condition) := do
  let ((field, form), rest) ← form? name tokens
  return (.test (← Test.ofForm? field form), rest)

/-! ### Operators -/

/-- The operators that join two conditions. -/
inductive Operator
  | conjunction
  | disjunction
deriving DecidableEq

/-- How strongly an operator binds the conditions beside it. -/
def Operator.power : Operator → Nat
  | .disjunction => 1
  | .conjunction => 2

/-- How strongly `not` binds the condition after it. -/
def negationPower : Nat := 3

/-- The condition that an operator makes of two. -/
def Operator.join : Operator → Condition → Condition → Condition
  | .disjunction => .disjunction
  | .conjunction => .conjunction

/-- The operator after an operand with the tokens after it, or nothing where the expression ends. -/
def operator? : List Token → Except QueryError (Option (Parsed Operator))
  | [] | .closing :: _ => .ok none
  | .conjunction :: rest => .ok (some (.conjunction, rest))
  | .disjunction :: rest => .ok (some (.disjunction, rest))
  | t :: _ => .error (.invalidOperator t.render)

/-! ### Expressions -/

mutual

/-- Reads an expression whose operators have at least a given power. -/
def expression? : Nat → Nat → List Token → Except QueryError (Parsed Condition)
  | 0, _, _ => .error .unexpectedEnd
  | fuel + 1, power, tokens => do
    let (left, rest) ← operand? fuel tokens
    joined? fuel power left rest

/-- Reads a test, a constant, an expression in brackets, or the negation of what `not` binds. -/
def operand? : Nat → List Token → Except QueryError (Parsed Condition)
  | 0, _ => .error .unexpectedEnd
  | _ + 1, [] => .error .unexpectedEnd
  | _ + 1, .identifier name :: rest => test? name rest
  | _ + 1, .literal (.boolean b) :: rest => .ok (.constant b, rest)
  | fuel + 1, .opening :: rest => do
    let (c, rest) ← expression? fuel 0 rest
    match rest with
    | .closing :: rest => return (c, rest)
    | _ => .error .missingClosing
  | fuel + 1, .negation :: rest => do
    let (c, rest) ← expression? fuel negationPower rest
    return (.negation c, rest)
  | _ + 1, t :: _ => .error (.unexpectedToken t.render)

/-- Joins to a condition what operators of at least a given power bind to it. -/
def joined? : Nat → Nat → Condition → List Token → Except QueryError (Parsed Condition)
  | 0, _, _, _ => .error .unexpectedEnd
  | fuel + 1, power, left, tokens => do
    match ← operator? tokens with
    | none => return (left, tokens)
    | some (operator, rest) =>
      if operator.power < power then return (left, tokens)
      else
        let (right, rest) ← expression? fuel operator.power rest
        joined? fuel power (operator.join left right) rest

end

/-- The condition that a list of tokens makes. -/
def condition? (tokens : List Token) : Except QueryError Condition := do
  let (c, rest) ← expression? (2 * tokens.length + 2) 0 tokens
  match rest with
  | [] => return c
  | t :: _ => .error (.unexpectedToken t.render)

end Vigil.Query
