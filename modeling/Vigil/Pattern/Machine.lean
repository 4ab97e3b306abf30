import Vigil.Pattern.Preference
import Vigil.Pattern.Program

/-! # The matching machine

The machine follows a program through a text. At a split it puts the other way on its stack; when the way
it is on ends, it takes up the last one put there. It gives up after `backtrackLimit` such returns, or when
the stack holds `stackLimit` ways, so that no text keeps it busy for ever. -/

namespace Vigil.Pattern

/-- How a search ends. -/
inductive Outcome
  | found
  | absent
  | gaveUp
deriving DecidableEq

/-- A way not yet tried: where it goes on in program and text, with the slots and open atomic groups it
had. -/
structure Way where
  address : Nat
  place : Nat
  slots : Array (Option Nat)
  atomics : List Nat

/-- A machine at work; `depth` is the size of its stack. -/
structure Machine where
  way : Way
  stack : List Way := []
  depth : Nat := 0
  returns : Nat := 0

namespace Machine

/-- The number of returns to another way after which the machine gives up. -/
def backtrackLimit : Nat := 1000000

/-- The number of ways the stack can hold. -/
def stackLimit : Nat := 1000000

/-- More steps than the limits leave time for. -/
def stepLimit : Nat := Nat.pow 2 40

/-- What a step comes to. -/
inductive Step
  | next (m : Machine)
  | fail (m : Machine)
  | done (outcome : Outcome)

/-- The value of a slot. -/
def slot? (w : Way) (slot : Nat) : Option Nat := (w.slots[slot]?).join

/-- Sets a slot. -/
def setSlot (w : Way) (slot : Nat) (value : Option Nat) : Way :=
  { w with slots := w.slots.setIfInBounds slot value }

/-- Goes to an address. -/
def goTo (w : Way) (address : Nat) : Way := { w with address }

/-- Goes to the next instruction. -/
def onward (w : Way) : Way := { w with address := w.address + 1 }

/-- Keeps a way for later and goes on with another. -/
def fork (m : Machine) (now later : Way) : Step :=
  if m.depth < stackLimit then
    .next { m with way := now, stack := later :: m.stack, depth := m.depth + 1 }
  else .done .gaveUp

/-- Whether the text goes on with some characters at a place. -/
def continuesWith (text : Array Char) : Nat → List Char → Bool
  | _, [] => true
  | place, c :: cs => text[place]? == some c && continuesWith text (place + 1) cs

/-- Sets the slots of the groups from `first` on to what was matched. -/
def recordGroups (groups : List (Nat × Nat × Nat)) (first count : Nat) (w : Way) : Way :=
  (List.range' first count).foldl (fun w group =>
    let (s, t) := match groups.lookup group with
      | some (s, t) => (some s, some t)
      | none => (none, none)
    setSlot (setSlot w (2 * group) s) (2 * group + 1) t) w

/-- Carries out the next instruction. -/
def step (program : Program) (text : Array Char) (m : Machine) : Step :=
  let w := m.way
  let goOn (w : Way) : Step := .next { m with way := w }
  match program.code[w.address]? with
  | none => .fail m
  | some i =>
    match i with
    | .accept => .done .found
    | .any newline =>
      match text[w.place]? with
      | some c =>
        if newline || c != '\n' then goOn (onward { w with place := w.place + 1 }) else .fail m
      | none => .fail m
    | .literal cs =>
      if continuesWith text w.place cs then
        goOn (onward { w with place := w.place + cs.length })
      else .fail m
    | .set s =>
      match text[w.place]? with
      | some c => if s.contains c then goOn (onward { w with place := w.place + 1 }) else .fail m
      | none => .fail m
    | .assertion a =>
      if a.holdsAt text w.place then goOn (onward w) else .fail m
    | .plain n first last =>
      match (n.ends text ⟨w.place, []⟩).head? with
      | some spot =>
        goOn (onward (recordGroups spot.groups first (last - first) { w with place := spot.place }))
      | none => .fail m
    | .split next other => fork m (goTo w next) (goTo w other)
    | .jump next => goOn (goTo w next)
    | .save slot => goOn (onward (setSlot w slot (some w.place)))
    | .clear slot => goOn (onward (setSlot w slot (some 0)))
    | .restore slot =>
      match slot? w slot with
      | some place => goOn (onward { w with place })
      | none => .fail m
    | .again least most greedy next count =>
      let n := (slot? w count).getD 0
      if some n == most then goOn (goTo w next)
      else
        let on := onward (setSlot w count (some (n + 1)))
        if n < least then goOn on
        else if greedy then fork m on (goTo on next)
        else fork m (goTo on next) on
    | .againNonempty least greedy next count start =>
      let n := (slot? w count).getD 0
      if 0 < n && slot? w start == some w.place then .fail m
      else
        let on := onward (setSlot w count (some (n + 1)))
        if n < least then goOn on
        else
          let on := setSlot on start (some w.place)
          if greedy then fork m on (goTo on next) else fork m (goTo on next) on
    | .goBack n => if n ≤ w.place then goOn (onward { w with place := w.place - n }) else .fail m
    | .refuse =>
      let inner := m.stack.takeWhile fun other => other.address != w.address + 1
      .fail { m with
        stack := m.stack.drop (inner.length + 1), depth := m.depth - (inner.length + 1) }
    | .reference group =>
      match slot? w (2 * group), slot? w (2 * group + 1) with
      | some s, some t =>
        let cs := (text.extract s t).toList
        if continuesWith text w.place cs then
          goOn (onward { w with place := w.place + cs.length })
        else .fail m
      | _, _ => .fail m
    | .groupMatched group =>
      if (slot? w (2 * group)).isSome then goOn (onward w) else .fail m
    | .beginAtomic => goOn (onward { w with atomics := m.depth :: w.atomics })
    | .endAtomic =>
      match w.atomics with
      | depth :: atomics =>
        .next { m with
          way := onward { w with atomics }
          stack := m.stack.drop (m.depth - depth)
          depth := min m.depth depth }
      | [] => .fail m
    | .searchStart => if w.place = 0 then goOn (onward w) else .fail m

/-- Takes up the last way on the stack. -/
def back (m : Machine) : Step :=
  match m.stack with
  | [] => .done .absent
  | w :: stack =>
    if m.returns + 1 ≤ backtrackLimit then
      .next { way := w, stack, depth := m.depth - 1, returns := m.returns + 1 }
    else .done .gaveUp

/-- Runs to the end. -/
def run (program : Program) (text : Array Char) : Nat → Machine → Outcome
  | 0, _ => .gaveUp
  | fuel + 1, m =>
    match step program text m with
    | .next m => run program text fuel m
    | .done outcome => outcome
    | .fail m =>
      match back m with
      | .next m => run program text fuel m
      | .done outcome => outcome
      | .fail _ => .absent

end Machine

/-- Looks for a match of a program in a text. -/
def Program.search (program : Program) (text : List Char) : Outcome :=
  Machine.run program text.toArray Machine.stepLimit
    { way := ⟨0, 0, Array.replicate program.slots none, []⟩ }

end Vigil.Pattern
