import Std.Data.HashSet
import Vigil.Pattern.Node
import Vigil.Text.Character

/-! # Matching plain expressions

A place in a text is the number of characters before it. `Node.reach` leads from the places where an expression
may begin to those where it may end, so that `Node.occursIn` only has to ask whether any place is reached. No
way of matching is tried twice: a place counts once, however it is reached. -/

namespace Vigil.Pattern

open Vigil.Text

/-! ### Conditions -/

/-- Whether a word character is there. -/
def isWordAt (c : Option Char) : Bool := c.any isWordCharacter

/-- Whether a condition holds between two characters, either of which may be missing. -/
def Assertion.holds : Assertion → Option Char → Option Char → Bool
  | .textStart, before, _ => before.isNone
  | .textEnd, _, after => after.isNone
  | .lineStart, before, _ => before.isNone || before == some '\n'
  | .lineEnd, _, after => after.isNone || after == some '\n'
  | .wordStart, before, after => !isWordAt before && isWordAt after
  | .wordEnd, before, after => isWordAt before && !isWordAt after
  | .wordBoundary, before, after => isWordAt before != isWordAt after
  | .noWordBoundary, before, after => isWordAt before == isWordAt after

/-- Whether a condition holds at a place. -/
def Assertion.holdsAt (a : Assertion) (text : Array Char) (place : Nat) : Bool :=
  a.holds (if place = 0 then none else text[place - 1]?) text[place]?

/-! ### Places -/

/-- Places in a text, each of them once. -/
abbrev Places := List Nat

namespace Places

/-- The places of either list. -/
def union : Places → Places → Places
  | [], n => n
  | m, [] => m
  | m, n =>
    let known := Std.HashSet.ofList m
    m ++ n.filter fun place => !known.contains place

/-- The places after a character of the class. -/
def afterOne (s : CharClass) (text : Array Char) (m : Places) : Places :=
  (m.filter fun place => (text[place]?).any s.contains).map (· + 1)

/-- Adds the places from one on that are reached over characters of the class, up to one that is there
already. -/
def addRun (s : CharClass) (text : Array Char) (reached : Std.HashSet Nat) (place : Nat) :
    Std.HashSet Nat :=
  if reached.contains place then reached
  else if h : place < text.size then
    if s.contains text[place] then addRun s text (reached.insert place) (place + 1)
    else reached.insert place
  else reached.insert place
termination_by text.size - place

/-- The places reached over any number of characters of the class. -/
def afterMany (s : CharClass) (text : Array Char) (m : Places) : Places :=
  (m.foldl (addRun s text) {}).toList

/-- Applies a step a number of times. -/
def times (step : Places → Places) : Nat → Places → Places
  | 0, m => m
  | n + 1, m => if m.isEmpty then m else times step n (step m)

/-- Applies a step up to a number of times. -/
def upTo (step : Places → Places) : Nat → Places → Places
  | 0, m => m
  | n + 1, m => if m.isEmpty then m else m.union (upTo step n (step m))

/-- Applies a step any number of times. A step never leads back, so one application to each place that has been
reached is enough, from the first place of the text to its end. -/
def closure (step : Places → Places) (size : Nat) (m : Places) : Places :=
  let reached := (List.range (size + 1)).foldl (fun reached place =>
    if reached.contains place then reached.insertMany (step [place]) else reached)
    (Std.HashSet.ofList m)
  reached.toList

end Places

/-! ### Expressions -/

namespace Node

/-- The places where an expression may end that begins at a given place. -/
def reach (text : Array Char) : Node → Places → Places
  | .empty, m => m
  | .set s, m => Places.afterOne s text m
  | .assertion a, m => m.filter (a.holdsAt text)
  | .sequence a b, m => reach text b (reach text a m)
  | .choice a b, m => (reach text a m).union (reach text b m)
  | .group _ a, m => reach text a m
  | .repetition (.set s) least none _, m =>
    Places.afterMany s text (Places.times (Places.afterOne s text) least m)
  | .repetition a least none _, m =>
    Places.closure (reach text a) text.size (Places.times (reach text a) least m)
  | .repetition a least (some most) _, m =>
    Places.upTo (reach text a) (most - least) (Places.times (reach text a) least m)

/-- Whether an expression matches some part of a text. -/
def occursIn (n : Node) (text : List Char) : Bool :=
  !(reach text.toArray n (List.range (text.length + 1))).isEmpty

end Node

end Vigil.Pattern
