import Vigil.Pattern.Expr

/-! # Plain expressions

A plain expression, one that looks at the next character only, as a tree with binary nodes. `ofExpr?`
makes it from an expression; groups get their numbers on the way. Trees of more than `sizeLimit`, with
every repetition written out, are refused, and so are repetitions with bounds in the wrong order or beyond
`boundLimit`. -/

namespace Vigil.Pattern

/-- A plain regular expression. -/
inductive Node
  | empty
  | set (s : CharClass)
  | assertion (a : Assertion)
  | sequence (a b : Node)
  | choice (a b : Node)
  | group (number : Nat) (a : Node)
  | repetition (a : Node) (least : Nat) (most : Option Nat) (greedy : Bool)

/-- An estimate of the bytes that a character takes without regard to case. Outside ASCII, and for the
letters `k` and `s`, the characters that fold to the same have several bytes each. -/
def CharClass.foldedWeight (c : Char) : Nat :=
  if c.toNat < 128 && !(['K', 'S', 'k', 's'].contains c) then 100 else 340

/-- An estimate of the bytes that the transitions of a class take. -/
def CharClass.weight : CharClass → Nat
  | .nothing => 32
  | .char c => 32 * c.utf8Size
  | .range _ last => if last.toNat < 128 then 40 else 400
  | .blank => 600
  | .decimalDigit => 3900
  | .word => 54000
  | .ranges r => 60 * r.bounds.size
  | .categories _ => 20000
  | .script _ | .scriptExtension _ => 2000
  | .ages _ => 20000
  | .union a b => a.weight + b.weight
  | .intersection a b => max a.weight b.weight
  | .difference a b => max a.weight b.weight
  | .symmetricDifference a b => a.weight + b.weight
  | .complement a => a.weight + 400
  | .folded (.char c) => foldedWeight c
  | .folded a => 2 * a.weight

namespace Node

/-- The size, in bytes, that a tree may have. -/
def sizeLimit : Nat := 10 * Nat.pow 2 20

/-- Bounds of repetitions are below this number. -/
def boundLimit : Nat := Nat.pow 2 32

/-- An estimate of the bytes that the states and transitions of a tree take. -/
def weight : Node → Nat
  | .empty => 0
  | .set s => s.weight
  | .assertion _ => 32
  | .sequence a b => a.weight + b.weight
  | .choice a b => a.weight + b.weight + 40
  | .group _ a => a.weight + 64
  | .repetition a least none _ => a.weight * max 1 least + 40
  | .repetition a least (some most) _ => a.weight * max least most + 40 * (most - least)

/-- Whether all bounds are in order and in range. -/
def boundsOk : Node → Bool
  | .empty | .set _ | .assertion _ => true
  | .sequence a b | .choice a b => a.boundsOk && b.boundsOk
  | .group _ a => a.boundsOk
  | .repetition a least none _ => a.boundsOk && least < boundLimit
  | .repetition a least (some most) _ => a.boundsOk && least ≤ most && most < boundLimit

/-- A tree that is accepted. -/
def checked (n : Node) : Option Node :=
  if n.boundsOk && n.weight ≤ sizeLimit then some n else none

/-- Nodes in a row. -/
def inSequence : List Node → Node
  | [] => .empty
  | [n] => n
  | n :: ns => .sequence n (inSequence ns)

/-- A choice between nodes. -/
def oneOf : List Node → Node
  | [] => .empty
  | [n] => n
  | n :: ns => .choice n (oneOf ns)

/-- A character, with or without regard to case. -/
def char (c : Char) (folded : Bool) : Node := .set (.foldedIf folded (.char c))

/-- All characters but the end of a line. -/
def exceptNewline : CharClass := .complement (.char '\n')

mutual

/-- The tree of an expression whose first group has the number `first`; hard expressions have none. -/
def ofExpr? (first : Nat) : Expr → Option Node
  | .empty => some .empty
  | .any newline => some (.set (if newline then .everything else exceptNewline))
  | .literal c folded => some (char c folded)
  | .set s => some (.set s)
  | .assertion a => if a.isHard then none else some (.assertion a)
  | .sequence items => (ofExprs? first items).map inSequence
  | .choice items => (ofExprs? first items).map oneOf
  | .group e => (ofExpr? (first + 1) e).map (.group first)
  | .repetition e least most greedy =>
    (ofExpr? first e).map fun n => .repetition n least most greedy
  | _ => none

/-- The trees of several expressions. -/
def ofExprs? (first : Nat) : List Expr → Option (List Node)
  | [] => some []
  | e :: es =>
    match ofExpr? first e, ofExprs? (first + e.groups) es with
    | some n, some ns => some (n :: ns)
    | _, _ => none

end

end Node

end Vigil.Pattern
