import Vigil.Text.Casing
import Vigil.Text.Digits
import Vigil.Timestamp.Readings

/-! # Reading timestamps

A timestamp is read item by item of its format. Blanks may stand before numbers and offsets, and names are
known in any case of letters. Offsets and names of time zones are read and then left aside. The whole text has
to be read. -/

namespace Vigil.Timestamp

open Vigil.Text

/-- The months. -/
def monthNames : List String :=
  ["January", "February", "March", "April", "May", "June", "July", "August", "September", "October",
    "November", "December"]

/-- The days of the week. -/
def weekdayNames : List String :=
  ["Monday", "Tuesday", "Wednesday", "Thursday", "Friday", "Saturday", "Sunday"]

/-- The halves of the day. -/
def halfNames : List String := ["am", "pm"]

/-! ### Words -/

/-- The text after a word, in any case of letters. -/
def afterWord? : List Char → List Char → Option (List Char)
  | [], cs => some cs
  | w :: word, c :: cs => if asciiLower w = asciiLower c then afterWord? word cs else none
  | _ :: _, [] => none

/-- Which name, the first having the number `n`, a text begins with, by `letters` letters of it. If `long`, the
rest of the name is taken as well if it is there. -/
def nameFrom? (letters : Nat) (long : Bool) (n : Nat) :
    List String → List Char → Option (Nat × List Char)
  | [], _ => none
  | name :: names, cs =>
    match afterWord? (name.toList.take letters) cs with
    | none => nameFrom? letters long (n + 1) names cs
    | some rest =>
      some (n, if long then (afterWord? (name.toList.drop letters) rest).getD rest else rest)

/-! ### Numbers -/

/-- Reads digits, as many as there are between two numbers of them; without a greatest number, all. -/
def digits? (least : Nat) (most : Option Nat) (cs : List Char) : Option (List Char × List Char) :=
  let digits := (cs.take (most.getD cs.length)).takeWhile Char.isDigit
  if digits.length < least then none else some (digits, cs.drop digits.length)

/-- Reads a number of so many digits at most. -/
def number? (most : Option Nat) (cs : List Char) : Option (Int × List Char) :=
  (digits? 1 most cs).map fun (digits, rest) => (decimalValue digits, rest)

/-- The greatest number of digits of a number without a sign. -/
def Quantity.width? : Quantity → Option Nat
  | .field .year | .field .isoYear => some 4
  | .field .ordinal => some 3
  | .field .nanosecond => some 9
  | .field .unixTime => none
  | .field .quarter | .daysFromSunday | .daysFromMonday => some 1
  | _ => some 2

/-- Whether a number can have a sign; then it can also have any number of digits. -/
def Quantity.canHaveSign : Quantity → Bool
  | .field .year | .field .isoYear => true
  | _ => false

/-- Reads a number. -/
def Quantity.read? (q : Quantity) (cs : List Char) : Option (Int × List Char) :=
  if q.canHaveSign then
    match cs with
    | '-' :: rest => (number? none rest).map fun (n, rest) => (-n, rest)
    | '+' :: rest => number? none rest
    | cs => number? q.width? cs
  else number? q.width? cs

/-- The nanoseconds that the first digits of a fraction denote. -/
def nanosecondsOf (digits : List Char) : Int := decimalValue digits * Int.pow 10 (9 - digits.length)

/-! ### Offsets -/

/-- What may stand between the hours and the minutes of an offset: colons and blanks. -/
def isOffsetGap (c : Char) : Bool := c == ':' || isBlank c

/-- Reads the sign of an offset, which may be the sign for minus of typesetters. -/
def offsetSign? : List Char → Option (Int × List Char)
  | '+' :: rest => some (1, rest)
  | '-' :: rest => some (-1, rest)
  | '\u2212' :: rest => some (-1, rest)
  | _ => none

/-- Reads the minutes of an offset; with nothing left, they may be missing. -/
def offsetMinutes? (optional : Bool) (cs : List Char) : Option (Int × List Char) :=
  if cs.isEmpty && optional then some (0, [])
  else (digits? 2 (some 2) cs).bind fun (digits, rest) =>
    if decimalValue digits < 60 then some (decimalValue digits, rest) else none

/-- Reads an offset, in seconds. -/
def offset? (zulu utc minutesOptional : Bool) (cs : List Char) : Option (Int × List Char) :=
  match if utc then afterWord? ['u', 't', 'c'] cs else none with
  | some rest => some (0, rest)
  | none =>
    match if zulu then afterWord? ['z'] cs else none with
    | some rest => some (0, rest)
    | none => do
      let (sign, rest) ← offsetSign? cs
      let (hours, rest) ← digits? 2 (some 2) rest
      let (minutes, rest) ← offsetMinutes? minutesOptional (rest.dropWhile isOffsetGap)
      return (sign * (decimalValue hours * 3600 + minutes * 60), rest)

/-! ### Items -/

namespace Item

/-- Reads an item. -/
def read? (item : Item) (r : Readings) (cs : List Char) : Option (Readings × List Char) :=
  match item with
  | .literal c =>
    match cs with
    | d :: rest => if c = d then some (r, rest) else none
    | [] => none
  | .blanks => some (r, cs.dropWhile isBlank)
  | .number q => do
    let (n, rest) ← q.read? (cs.dropWhile isBlank)
    return (← r.setQuantity? q n, rest)
  | .monthName long => do
    let (n, rest) ← nameFrom? 3 long 1 monthNames cs
    return (← r.set? .month n, rest)
  | .weekdayName long => do
    let (n, rest) ← nameFrom? 3 long 0 weekdayNames cs
    return (← r.set? .weekday n, rest)
  | .halfName => do
    let (n, rest) ← nameFrom? 2 false 0 halfNames cs
    return (← r.set? .half n, rest)
  | .fraction =>
    match cs with
    | '.' :: rest => do
      let (digits, rest) ← digits? 1 (some 9) rest
      return (← r.set? .nanosecond (nanosecondsOf digits), rest.dropWhile Char.isDigit)
    | cs => some (r, cs)
  | .fixedFraction count point =>
    match if point then afterWord? ['.'] cs else some cs with
    | some rest => do
      let (digits, rest) ← digits? count (some count) rest
      return (← r.set? .nanosecond (nanosecondsOf digits), rest)
    | none => some (r, cs)
  | .zoneName => some (r, cs.dropWhile fun c => !isBlank c)
  | .offset zulu utc minutesOptional => do
    let (seconds, rest) ← offset? zulu utc minutesOptional (cs.dropWhile isBlank)
    return (← r.set? .offset seconds, rest)
  | .dateEnd =>
    match cs with
    | c :: rest => if c = 't' ∨ c = 'T' ∨ c = ' ' then some (r, rest) else none
    | [] => none

/-- Reads items one after the other. -/
def readAll? : List Item → Readings → List Char → Option (Readings × List Char)
  | [], r, cs => some (r, cs)
  | item :: items, r, cs => (item.read? r cs).bind fun (r, rest) => readAll? items r rest

end Item

/-- What a text tells by a format. -/
def readings? (format text : String) : Option Readings := do
  match ← Item.readAll? (← Item.ofFormat? format) [] text.toList with
  | (r, []) => return r
  | _ => none

end Vigil.Timestamp
