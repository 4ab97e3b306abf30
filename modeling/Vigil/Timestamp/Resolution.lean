import Vigil.Timestamp.Calendar
import Vigil.Timestamp.Reader

/-! # From readings to a moment

A day is named by its year with its month and day, its number in the year, or its week and day of the week, or
by an ISO week. The first of these that is there decides, and all that has been read has to agree with it. The
hour and the minute have to be there, the seconds do not. Where the day or the time is incomplete, a count of
seconds since 1970 stands in. -/

namespace Vigil.Timestamp

/-- Why readings name no day. -/
inductive DateError
  | incomplete
  | impossible
deriving DecidableEq

/-- The year in which years of the century begin to stand for the century before. -/
def centuryChange : Int := 70

/-- The greatest number of a year that a century can give. -/
def greatestGivenYear : Int := Int.pow 2 31 - 1

/-- The year that a year, a century and a year of the century name, if any of them is there. -/
def givenYear (year century yearOfCentury : Option Int) : Except DateError (Option Int) :=
  match year, century, yearOfCentury with
  | y, none, none => .ok y
  | some y, c, n =>
    if 0 ≤ y ∧ c.getD (y / 100) = y / 100 ∧ n.getD (y % 100) = y % 100 then .ok (some y)
    else .error .impossible
  | none, some c, some n =>
    if c * 100 + n ≤ greatestGivenYear then .ok (some (c * 100 + n)) else .error .impossible
  | none, none, some n => .ok (some (n + if n < centuryChange then 2000 else 1900))
  | none, some _, none => .error .incomplete

/-- The number of the first of January 1970. -/
def unixEpoch : Int := Date.number ⟨1970, 1⟩

/-- The number of Monday in the week. -/
def monday : Nat := 0

/-- The number of Sunday in the week. -/
def sunday : Nat := 6

namespace Readings

/-! ### Days -/

/-- The ways to name a day in the order of their rank; each has its fields or not, and they name a day or
not. -/
def candidates (r : Readings) (year isoYear : Option Int) : List (Option (Option Date)) :=
  [do return Date.ofMonth? (← year) (← r.lookup .month) (← r.lookup .day),
    do return Date.ofOrdinal? (← year) (← r.lookup .ordinal),
    do return Date.ofWeek? (← year) (← r.lookup .sundayWeek) (← r.lookup .weekday).toNat sunday,
    do return Date.ofWeek? (← year) (← r.lookup .mondayWeek) (← r.lookup .weekday).toNat monday,
    do return Date.ofIsoWeek? (← isoYear) (← r.lookup .isoWeek) (← r.lookup .weekday)]

/-- Whether the hundreds of a year and the years after them agree with a year. Before the year zero they are
not used. -/
def agreesInCentury (r : Readings) (hundreds others : Field) (y : Int) : Bool :=
  if y < 0 then (r.lookup hundreds).isNone && (r.lookup others).isNone
  else r.agrees hundreds (y / 100) && r.agrees others (y % 100)

/-- Whether all that has been read agrees with a day. -/
def agreesWithDate (r : Readings) (d : Date) : Bool :=
  let (month, day) := d.monthAndDay
  let (isoYear, isoWeek) := d.isoWeek
  r.agrees .year d.year && r.agreesInCentury .century .yearOfCentury d.year &&
    r.agrees .quarter d.quarter && r.agrees .month month && r.agrees .day day &&
    r.agrees .ordinal d.ordinal && r.agrees .sundayWeek (d.weeksFrom sunday) &&
    r.agrees .mondayWeek (d.weeksFrom monday) && r.agrees .isoYear isoYear &&
    r.agreesInCentury .isoCentury .isoYearOfCentury isoYear && r.agrees .isoWeek isoWeek &&
    r.agrees .weekday d.weekday

/-- The day that readings name. -/
def date? (r : Readings) : Except DateError Date := do
  let year ← givenYear (r.lookup .year) (r.lookup .century) (r.lookup .yearOfCentury)
  let isoYear ← givenYear (r.lookup .isoYear) (r.lookup .isoCentury) (r.lookup .isoYearOfCentury)
  match (r.candidates year isoYear).findSome? id with
  | none => .error .incomplete
  | some none => .error .impossible
  | some (some d) => if r.agreesWithDate d then .ok d else .error .impossible

/-! ### Times -/

/-- The second of the day that readings name, and the nanoseconds since then. A second number 60 goes on with
the nanoseconds of the one before it. -/
def time? (r : Readings) : Option (Nat × Nat) := do
  let hour := (← r.lookup .half) * 12 + (← r.lookup .hourOfHalf)
  let start := hour * 3600 + (← r.lookup .minute) * 60
  match r.lookup .second, r.lookup .nanosecond with
  | none, some _ => none
  | second, nanosecond =>
    let second := second.getD 0
    let leap := if second = 60 then 1000000000 else 0
    return ((start + min second 59).toNat, (leap + nanosecond.getD 0).toNat)

/-! ### Moments -/

/-- Seconds since 1970, without leap seconds. -/
def unixTimeOf (m : Moment) : Int := (m.date.number - unixEpoch) * 86400 + m.second

/-- Whether a count of seconds agrees with a moment. A leap second may have the count of the second after
it. -/
def agreesWithUnixTime (r : Readings) (m : Moment) : Bool :=
  r.agrees .unixTime (unixTimeOf m) ||
    (1000000000 ≤ m.nanosecond && r.agrees .unixTime (unixTimeOf m + 1))

/-- The day of a count of seconds. -/
def dateOfUnixTime? (seconds : Int) : Option Date := Date.ofNumber? (unixEpoch + seconds / 86400)

/-- Whether readings are of a leap second. -/
def isLeapSecond (r : Readings) : Bool := r.lookup .second == some 60

/-- The count of the second that a count stands for. In a leap second it is the count of that second or of
the one after it. -/
def countFor? (r : Readings) (seconds : Int) : Option Int :=
  if !r.isLeapSecond || seconds % 60 = 59 then some seconds
  else if seconds % 60 = 0 then some (seconds - 1)
  else none

/-- Adds the second of a count, unless it is a leap second. -/
def setSecondOf? (r : Readings) (seconds : Int) : Option Readings :=
  if r.isLeapSecond then some r else r.set? .second (seconds % 60)

/-- Adds a day, and the hour and the minute of a count of seconds. -/
def setMinuteOf? (r : Readings) (d : Date) (seconds : Int) : Option Readings := do
  let r ← r.set? .year d.year
  let r ← r.set? .ordinal d.ordinal
  let r ← r.setHour? (seconds % 86400 / 3600)
  r.set? .minute (seconds % 3600 / 60)

/-- Adds the day and the time of a count of seconds. -/
def complete? (r : Readings) (seconds : Int) : Option Readings := do
  let _ ← dateOfUnixTime? seconds
  let seconds ← r.countFor? seconds
  let d ← dateOfUnixTime? seconds
  let r ← r.setSecondOf? seconds
  r.setMinuteOf? d seconds

/-- The moment that readings name. -/
def moment? (r : Readings) : Option Moment :=
  match r.date?, r.time? with
  | .ok d, some (second, nanosecond) =>
    let m := ⟨d, second, nanosecond⟩
    if r.agreesWithUnixTime m then some m else none
  | .error .impossible, _ => none
  | _, _ => do
    let r ← r.complete? (← r.lookup .unixTime)
    let d ← r.date?.toOption
    let (second, nanosecond) ← r.time?
    return ⟨d, second, nanosecond⟩

end Readings

/-- The moment of a text by a format. -/
def moment? (format text : String) : Option Moment := (readings? format text).bind Readings.moment?

end Vigil.Timestamp
