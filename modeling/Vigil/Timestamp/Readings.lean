import Vigil.Timestamp.Format

/-! # What a timestamp tells

The numbers that have been read of a timestamp, by their fields. A field can be read more than once, but always
to the same number, and numbers that no timestamp can have are refused. -/

namespace Vigil.Timestamp

/-- Whether a field can have a number. -/
def Field.allows (f : Field) (n : Int) : Bool :=
  let within (least greatest : Int) : Bool := least ≤ n && n ≤ greatest
  match f with
  | .year | .isoYear => within (-Int.pow 2 31) (Int.pow 2 31 - 1)
  | .century | .isoCentury => within 0 (Int.pow 2 31 - 1)
  | .yearOfCentury | .isoYearOfCentury => within 0 99
  | .quarter => within 1 4
  | .month => within 1 12
  | .day => within 1 31
  | .ordinal => within 1 366
  | .sundayWeek | .mondayWeek => within 0 53
  | .isoWeek => within 1 53
  | .weekday => within 0 6
  | .half => within 0 1
  | .hourOfHalf => within 0 11
  | .minute => within 0 59
  | .second => within 0 60
  | .nanosecond => within 0 999999999
  | .unixTime => within (-Int.pow 2 63) (Int.pow 2 63 - 1)
  | .offset => within (-Int.pow 2 31) (Int.pow 2 31 - 1)

/-- Fields with their numbers, each field at most once. -/
abbrev Readings := List (Field × Int)

namespace Readings

/-- Adds the number of a field. -/
def set? (f : Field) (n : Int) (r : Readings) : Option Readings :=
  if f.allows n then
    match r.lookup f with
    | none => some ((f, n) :: r)
    | some m => if m = n then some r else none
  else none

/-- Adds an hour of the day. -/
def setHour? (n : Int) (r : Readings) : Option Readings := do
  (← r.set? .half (n / 12)).set? .hourOfHalf (n % 12)

/-- Adds a number that means something. -/
def setQuantity? (q : Quantity) (n : Int) (r : Readings) : Option Readings :=
  match q with
  | .field f => r.set? f n
  | .hour => r.setHour? n
  | .hourOfHalf => if n = 0 then none else r.set? .hourOfHalf (if n = 12 then 0 else n)
  | .daysFromSunday => if n = 7 then none else r.set? .weekday (if n = 0 then 6 else n - 1)
  | .daysFromMonday => r.set? .weekday (n - 1)

/-- Whether a field agrees with a number: it has that number, or none. -/
def agrees (r : Readings) (f : Field) (n : Int) : Bool := (r.lookup f).getD n == n

end Readings

end Vigil.Timestamp
