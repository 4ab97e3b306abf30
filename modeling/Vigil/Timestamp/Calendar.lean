/-! # The calendar

Days of the Gregorian calendar, also before it was introduced. A `Date` is a year with a number of the day in
it, and days are numbered (`Date.number`) from the first of January 1601, which was a Monday. A week of the
ISO calendar belongs to the year of its Thursday. A `Moment` has a second of its day and nanoseconds, which may
go on for a second more in a leap second. -/

namespace Vigil

/-- A day of a year, the first of which is number 1. -/
structure Date where
  year : Int
  ordinal : Nat
deriving DecidableEq

/-- A time of a day: its second, and the nanoseconds since then, two thousand million at most. -/
structure Moment where
  date : Date
  second : Nat
  nanosecond : Nat
deriving DecidableEq

/-! ### Years -/

/-- Whether a year has a day more than others. -/
def isLeapYear (y : Int) : Bool := y % 4 == 0 && (y % 100 != 0 || y % 400 == 0)

/-- The number of days of a year. -/
def daysInYear (y : Int) : Nat := if isLeapYear y then 366 else 365

/-- The numbers of days of the months of a year. -/
def monthLengths (y : Int) : List Nat :=
  [31, if isLeapYear y then 29 else 28, 31, 30, 31, 30, 31, 31, 30, 31, 30, 31]

/-- The first year of the numbering of days. -/
def firstYear : Int := 1601

/-- The number of the first day of a year. -/
def yearStart (y : Int) : Int :=
  let n := y - firstYear
  365 * n + n / 4 - n / 100 + n / 400

namespace Date

/-- The years that dates can have. -/
def leastYear : Int := -262143

@[inherit_doc leastYear]
def greatestYear : Int := 262142

/-- A day of a year, if there is one with the number. -/
def ofOrdinal? (y : Int) (ordinal : Int) : Option Date :=
  if leastYear ≤ y ∧ y ≤ greatestYear ∧ 1 ≤ ordinal ∧ ordinal ≤ daysInYear y then
    some ⟨y, ordinal.toNat⟩
  else none

/-- A day of a month, if there is one with the number. -/
def ofMonth? (y month day : Int) : Option Date :=
  if 1 ≤ month ∧ 1 ≤ day then
    match (monthLengths y)[month.toNat - 1]? with
    | some length =>
      if day ≤ length then
        let before : Nat := ((monthLengths y).take (month.toNat - 1)).foldl (· + ·) 0
        ofOrdinal? y (before + day)
      else none
    | none => none
  else none

/-- The number of a day. -/
def number (d : Date) : Int := yearStart d.year + d.ordinal - 1

/-- The day with a number, whatever its year. -/
def ofNumber (n : Int) : Date :=
  let (cycles, n) := (n / 146097, (n % 146097).toNat)
  let centuries := min (n / 36524) 3
  let n := n - centuries * 36524
  let leaps := n / 1461
  let n := n - leaps * 1461
  let years := min (n / 365) 3
  ⟨firstYear + cycles * 400 + centuries * 100 + leaps * 4 + years, n - years * 365 + 1⟩

/-- The day with a number, if dates can have its year. -/
def ofNumber? (n : Int) : Option Date :=
  let d := ofNumber n
  ofOrdinal? d.year d.ordinal

/-! ### Parts -/

/-- The month of a day and its number in it, where the months of some lengths are left. -/
def monthFrom (month day : Nat) : List Nat → Nat × Nat
  | [] => (month, day)
  | length :: lengths => if day ≤ length then (month, day) else monthFrom (month + 1) (day - length) lengths

/-- The month of a day, and its number in the month. -/
def monthAndDay (d : Date) : Nat × Nat := monthFrom 1 d.ordinal (monthLengths d.year)

/-- The day of the week: 0 for Monday. -/
def weekday (d : Date) : Nat := (d.number % 7).toNat

/-- The number of days since a day of the week. -/
def daysSince (d : Date) (start : Nat) : Nat := (d.weekday + 7 - start) % 7

/-- The number of weeks that begin with a given day of the week up to a day, in its year. -/
def weeksFrom (d : Date) (start : Nat) : Nat := (d.ordinal + 6 - d.daysSince start) / 7

/-- The quarter of a day. -/
def quarter (d : Date) : Nat := (d.monthAndDay.1 - 1) / 3 + 1

/-- The Thursday of the week of a day. -/
def thursday (d : Date) : Date := ofNumber (d.number - d.weekday + 3)

/-- The year and the number of the ISO week of a day. -/
def isoWeek (d : Date) : Int × Nat := (d.thursday.year, (d.thursday.ordinal - 1) / 7 + 1)

/-- The day of an ISO week, if its year has that week. -/
def ofIsoWeek? (y week weekday : Int) : Option Date :=
  let fourth : Date := ⟨y, 4⟩
  let d := ofNumber (fourth.number - fourth.weekday + 7 * (week - 1) + weekday)
  if d.isoWeek.1 = y ∧ (d.isoWeek.2 : Int) = week then ofOrdinal? d.year d.ordinal else none

/-- The day of a week, where weeks begin with the day `start` and the first of them is the first that begins
in the year. -/
def ofWeek? (y week : Int) (weekday start : Nat) : Option Date :=
  let first : Date := ⟨y, 1⟩
  let firstStart : Int := 1 + ((start + 7 - first.weekday) % 7 : Nat)
  ofOrdinal? y (firstStart + (week - 1) * 7 + ((weekday + 7 - start) % 7 : Nat))

end Date

namespace Moment

/-- Moments one after the other; a leap second comes before the second that follows it. -/
def before (m n : Moment) : Bool :=
  m.date.year < n.date.year || (m.date.year == n.date.year &&
    (m.date.ordinal < n.date.ordinal || (m.date.ordinal == n.date.ordinal &&
      (m.second < n.second || (m.second == n.second && m.nanosecond < n.nanosecond)))))

/-- Nanoseconds since the beginning of the numbering of days; a leap second counts on. -/
def nanoseconds (m : Moment) : Int :=
  (m.date.number * 86400 + m.second) * 1000000000 + m.nanosecond

/-- Microseconds since the beginning of the numbering of days, without a fraction. -/
def microseconds (m : Moment) : Int := m.nanoseconds.tdiv 1000

end Moment

end Vigil
