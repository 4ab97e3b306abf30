import Vigil.Pattern.Node

/-! # Programs for hard expressions

A hard expression becomes a list of instructions for a machine that tries one way of matching after the
other. Plain parts are left whole where that cannot change which ways there are: at the two ends of a
sequence when they take a fixed number of characters, and inside look-around and atomic groups, where only
the preferred match counts. `Program.ofExpr?` refuses look-behind whose size is not fixed. -/

namespace Vigil.Pattern

/-- An instruction. Addresses are positions in the program; a slot holds a place or a number. -/
inductive Instruction
  | accept
  | any (newline : Bool)
  | literal (cs : List Char)
  | set (s : CharClass)
  | assertion (a : Assertion)
  | plain (n : Node) (first last : Nat)
  | split (next other : Nat)
  | jump (next : Nat)
  | save (slot : Nat)
  | clear (slot : Nat)
  | restore (slot : Nat)
  | again (least : Nat) (most : Option Nat) (greedy : Bool) (next count : Nat)
  | againNonempty (least : Nat) (greedy : Bool) (next count start : Nat)
  | goBack (n : Nat)
  | refuse
  | reference (group : Nat)
  | groupMatched (group : Nat)
  | beginAtomic
  | endAtomic
  | searchStart

/-- A program and the number of slots it uses. -/
structure Program where
  code : Array Instruction
  slots : Nat

namespace Program

/-- Instructions and the first slot that is still free. -/
abbrev Code := List Instruction × Nat

mutual

/-- The characters of an expression that matches one text only. -/
def literalText? : Expr → Option (List Char)
  | .literal c false => some [c]
  | .sequence items => literalTexts? items
  | _ => none

/-- The characters of expressions in a row. -/
def literalTexts? : List Expr → Option (List Char)
  | [] => some []
  | e :: es =>
    match literalText? e, literalTexts? es with
    | some cs, some ds => some (cs ++ ds)
    | _, _ => none

end

/-- One instruction for plain expressions in a row, if there are any. -/
def whole? (first : Nat) (items : List Expr) : Option (List Instruction) :=
  match items, literalTexts? items with
  | [], _ => some []
  | _, some cs => some [.literal cs]
  | _, none =>
    match ((Node.ofExprs? first items).map Node.inSequence).bind Node.checked with
    | some (.set s) => some [.set s]
    | some n => some [.plain n first (first + Expr.groupsAll items)]
    | none => none

/-- A split that goes on first when it is greedy and away first otherwise. -/
def fork (greedy : Bool) (on away : Nat) : Instruction :=
  if greedy then .split on away else .split away on

/-- The number of items at the start that satisfy a test, which is also given the number of the first
group of an item. -/
def leading (test : Nat → Expr → Bool) (first : Nat) : List Expr → Nat
  | [] => 0
  | e :: es => if test first e then leading test (first + e.groups) es + 1 else 0

/-- The number of items at the end that satisfy the test. -/
def trailing (test : Nat → Expr → Bool) (first : Nat) : List Expr → Nat
  | [] => 0
  | e :: es =>
    let n := trailing test (first + e.groups) es
    if n == es.length && test first e then n + 1 else n

/-- What matches a place with an expression in front of or behind it. -/
def lookCode (behind negative : Bool) (size start : Nat) (inner : List Instruction) (slot : Nat) :
    Code :=
  let back := if behind then [Instruction.goBack size] else []
  if negative then
    (.split (start + 1) (start + 1 + back.length + inner.length + 1) :: back ++ inner ++ [.refuse],
      slot)
  else (.save slot :: back ++ inner ++ [.restore slot], slot + 1)

/-- The length of what stands before the inner code in `lookCode`. -/
def lookOffset (behind : Bool) : Nat := if behind then 2 else 1

mutual

/-- The code of an expression that begins at address `start`. `first` is the number of its first group,
`slot` the first free slot; `hard` tells that what follows may have to come back to it. -/
def code? (referenced : List Nat) (first : Nat) (hard : Bool) (start slot : Nat) :
    Expr → Option Code
  | .empty => some ([], slot)
  | .any newline => some ([.any newline], slot)
  | .literal c folded => (whole? first [.literal c folded]).map (·, slot)
  | .set s => (whole? first [.set s]).map (·, slot)
  | .assertion a => some ([.assertion a], slot)
  | .sequence items =>
    if !hard && !Expr.anyHard referenced first items then (whole? first items).map (·, slot)
    else do
      let fixed (first : Nat) (e : Expr) := e.hasFixedSize && !e.isHard referenced first
      let last (first : Nat) (e : Expr) :=
        (!hard || e.hasFixedSize) && !e.isHard referenced first
      let before := leading fixed first items
      let restFirst := first + Expr.groupsAll (items.take before)
      let after := trailing last restFirst (items.drop before)
      let middle := items.length - before - after
      let head ← whole? first (items.take before)
      let (body, slot) ← middle? referenced first (start + head.length) slot before middle items
      let tail ← whole? (first + Expr.groupsAll (items.take (before + middle)))
        (items.drop (before + middle))
      return (head ++ body ++ tail, slot)
  | .choice items =>
    if !hard && !Expr.anyHard referenced first items then
      (whole? first [.choice items]).map (·, slot)
    else choice? referenced first hard start slot items
  | .group e =>
    if !hard && !(Expr.group e).isHard referenced first then
      (whole? first [.group e]).map (·, slot)
    else do
      let (body, slot) ← code? referenced (first + 1) hard (start + 1) slot e
      return (.save (2 * first) :: body ++ [.save (2 * first + 1)], slot)
  | .repetition e least most greedy =>
    if !hard && !e.isHard referenced first then
      (whole? first [.repetition e least most greedy]).map (·, slot)
    else if least = 0 ∧ most = some 1 then do
      let (body, slot) ← code? referenced first hard (start + 1) slot e
      return (fork greedy (start + 1) (start + 1 + body.length) :: body, slot)
    else if most = none ∧ e.leastSize = 0 then do
      let (body, slot') ← code? referenced first true (start + 2) (slot + 2) e
      let next := start + 3 + body.length
      return (.clear slot :: .againNonempty least greedy next slot (slot + 1) :: body ++
        [.jump (start + 1)], slot')
    else if least = 0 ∧ most = none then do
      let (body, slot) ← code? referenced first true (start + 1) slot e
      return (fork greedy (start + 1) (start + 2 + body.length) :: body ++ [.jump start], slot)
    else if least = 1 ∧ most = none then do
      let (body, slot) ← code? referenced first true start slot e
      return (body ++ [fork greedy start (start + body.length + 1)], slot)
    else do
      let (body, slot') ← code? referenced first true (start + 2) (slot + 1) e
      let next := start + 3 + body.length
      return (.clear slot :: .again least most greedy next slot :: body ++ [.jump (start + 1)],
        slot')
  | .look true negative (.choice items) =>
    if !(Expr.choice items).hasFixedSize then looks? referenced first negative start slot items
    else do
      let (body, slot) ←
        if !Expr.anyHard referenced first items then (whole? first [.choice items]).map (·, slot)
        else choice? referenced first false (start + 2) slot items
      return lookCode true negative (Expr.choice items).leastSize start body slot
  | .look behind negative inner =>
    if behind && !inner.hasFixedSize then none
    else do
      let (body, slot) ← code? referenced first false (start + lookOffset behind) slot inner
      return lookCode behind negative inner.leastSize start body slot
  | .atomic e => do
    let (body, slot) ← code? referenced first false (start + 1) slot e
    return (.beginAtomic :: body ++ [.endAtomic], slot)
  | .reference group => some ([.reference group], slot)
  | .resetStart => some ([.save 0], slot)
  | .searchStart => some ([.searchStart], slot)
  | .groupMatched group => some ([.groupMatched group], slot)
  | .conditional c y n => do
    let (test, slot) ← code? referenced first hard (start + 2) slot c
    let yesStart := start + 3 + test.length
    let (yes, slot) ← code? referenced (first + c.groups) hard yesStart slot y
    let noStart := yesStart + yes.length + 1
    let (no, slot) ← code? referenced (first + c.groups + y.groups) hard noStart slot n
    return (.beginAtomic :: .split (start + 2) noStart :: test ++ .endAtomic :: yes ++
      .jump (noStart + no.length) :: no, slot)

/-- The code of the items that remain when `skip` are left out before them; `count` is their number. -/
def middle? (referenced : List Nat) (first start slot skip count : Nat) :
    List Expr → Option Code
  | [] => some ([], slot)
  | e :: es =>
    match skip, count with
    | skip + 1, _ => middle? referenced (first + e.groups) start slot skip count es
    | 0, 0 => some ([], slot)
    | 0, count + 1 => do
      let (head, slot) ← code? referenced first true start slot e
      let (tail, slot) ← middle? referenced (first + e.groups) (start + head.length) slot 0 count es
      return (head ++ tail, slot)

/-- The code of a choice. -/
def choice? (referenced : List Nat) (first : Nat) (hard : Bool) (start slot : Nat) :
    List Expr → Option Code
  | [] => some ([], slot)
  | [e] => code? referenced first hard start slot e
  | e :: es => do
    let (head, slot) ← code? referenced first hard (start + 1) slot e
    let other := start + 2 + head.length
    let (tail, slot) ← choice? referenced (first + e.groups) hard other slot es
    return (.split (start + 1) other :: head ++ .jump (other + tail.length) :: tail, slot)

/-- The code of look-behind at a choice: one of the items, or none of them, is behind the place. -/
def looks? (referenced : List Nat) (first : Nat) (negative : Bool) (start slot : Nat) :
    List Expr → Option Code
  | [] => some ([], slot)
  | e :: es => do
    if !e.hasFixedSize then none
    else if negative then
      let (body, slot) ← code? referenced first false (start + 2) slot e
      let (head, slot) := lookCode true true e.leastSize start body slot
      let (tail, slot) ←
        looks? referenced (first + e.groups) negative (start + head.length) slot es
      return (head ++ tail, slot)
    else if es.isEmpty then
      let (body, slot) ← code? referenced first false (start + 2) slot e
      return lookCode true false e.leastSize start body slot
    else
      let (body, slot) ← code? referenced first false (start + 3) slot e
      let (head, slot) := lookCode true false e.leastSize (start + 1) body slot
      let other := start + 2 + head.length
      let (tail, slot) ← looks? referenced (first + e.groups) negative other slot es
      return (.split (start + 1) other :: head ++ .jump (other + tail.length) :: tail, slot)

end

/-- The program that looks for an expression, from each place on in turn. Slots 0 and 1 hold the ends of
the match, and the slots of the groups follow. -/
def ofExpr? (referenced : List Nat) (e : Expr) : Option Program :=
  (code? referenced 1 true 4 (2 * (e.groups + 1)) e).map fun (body, slots) =>
    let opening : List Instruction := [.split 3 1, .any true, .jump 0, .save 0]
    let closing : List Instruction := [.save 1, .accept]
    ⟨(opening ++ body ++ closing).toArray, slots⟩

end Program

end Vigil.Pattern
