import Vigil.Text.Character

/-! # Formats of timestamps

A format is a text with specifiers: a percent sign, a sign for how numbers are filled up if any, and a letter.
It is a list of items, each of which says what to read next. Specifiers for dates and times as a whole stand
for several items. -/

namespace Vigil.Timestamp

open Vigil.Text

/-- What a timestamp can tell. A day of the week is 0 for Monday; the hour is given as a half of the day and
an hour of the half. -/
inductive Field
  | year
  | century
  | yearOfCentury
  | isoYear
  | isoCentury
  | isoYearOfCentury
  | quarter
  | month
  | day
  | ordinal
  | sundayWeek
  | mondayWeek
  | isoWeek
  | weekday
  | half
  | hourOfHalf
  | minute
  | second
  | nanosecond
  | unixTime
  | offset
deriving DecidableEq

/-- What a number in a timestamp means: a field, or one that is derived from it. -/
inductive Quantity
  | field (f : Field)
  | hour
  | hourOfHalf
  | daysFromSunday
  | daysFromMonday
deriving DecidableEq

/-- What to read next. -/
inductive Item
  | literal (c : Char)
  | blanks
  | number (q : Quantity)
  | monthName (long : Bool)
  | weekdayName (long : Bool)
  | halfName
  | fraction
  | fixedFraction (digits : Nat) (point : Bool)
  | zoneName
  | offset (zulu utc minutesOptional : Bool)
  | dateEnd
deriving DecidableEq

namespace Item

/-- The number of a field. -/
def ofField (f : Field) : Item := .number (.field f)

/-- Year, month and day with signs between them. -/
def dashedDate : List Item :=
  [ofField .year, .literal '-', ofField .month, .literal '-', ofField .day]

/-- Month, day and year of the century with signs between them. -/
def slashedDate : List Item :=
  [ofField .month, .literal '/', ofField .day, .literal '/', ofField .yearOfCentury]

/-- Hour and minute. -/
def hourAndMinute : List Item := [.number .hour, .literal ':', ofField .minute]

/-- Hour, minute and second. -/
def clock : List Item := hourAndMinute ++ [.literal ':', ofField .second]

/-- Hour of a half of the day, minute, second and the half. -/
def halfClock : List Item :=
  [.number .hourOfHalf, .literal ':', ofField .minute, .literal ':', ofField .second, .blanks, .halfName]

/-- Day of the week, month, day, time and year. -/
def fullDate : List Item :=
  [.weekdayName false, .blanks, .monthName false, .blanks, ofField .day, .blanks] ++ clock ++
    [.blanks, ofField .year]

/-- Day, month and year. -/
def dayMonthYear : List Item :=
  [ofField .day, .literal '-', .monthName false, .literal '-', ofField .year]

/-- Date and time as they are exchanged, with an offset. -/
def exchange : List Item :=
  [ofField .year, .blanks, .literal '-', ofField .month, .blanks, .literal '-', ofField .day, .dateEnd,
    .number .hour, .blanks, .literal ':', ofField .minute, .blanks, .literal ':', ofField .second,
    .fraction, .blanks, .offset true true false]

/-- The items of a specifier that is a letter. -/
def ofLetter? : Char → Option (List Item)
  | 'A' => some [.weekdayName true]
  | 'B' => some [.monthName true]
  | 'C' => some [ofField .century]
  | 'D' => some slashedDate
  | 'F' => some dashedDate
  | 'G' => some [ofField .isoYear]
  | 'H' => some [.number .hour]
  | 'I' => some [.number .hourOfHalf]
  | 'M' => some [ofField .minute]
  | 'P' => some [.halfName]
  | 'R' => some hourAndMinute
  | 'S' => some [ofField .second]
  | 'T' => some clock
  | 'U' => some [ofField .sundayWeek]
  | 'V' => some [ofField .isoWeek]
  | 'W' => some [ofField .mondayWeek]
  | 'X' => some clock
  | 'Y' => some [ofField .year]
  | 'Z' => some [.zoneName]
  | 'a' => some [.weekdayName false]
  | 'b' => some [.monthName false]
  | 'c' => some fullDate
  | 'd' => some [ofField .day]
  | 'e' => some [ofField .day]
  | 'f' => some [ofField .nanosecond]
  | 'g' => some [ofField .isoYearOfCentury]
  | 'h' => some [.monthName false]
  | 'j' => some [ofField .ordinal]
  | 'k' => some [.number .hour]
  | 'l' => some [.number .hourOfHalf]
  | 'm' => some [ofField .month]
  | 'n' => some [.blanks]
  | 'p' => some [.halfName]
  | 'q' => some [ofField .quarter]
  | 'r' => some halfClock
  | 's' => some [ofField .unixTime]
  | 't' => some [.blanks]
  | 'u' => some [.number .daysFromMonday]
  | 'v' => some dayMonthYear
  | 'w' => some [.number .daysFromSunday]
  | 'x' => some slashedDate
  | 'y' => some [ofField .yearOfCentury]
  | 'z' => some [.offset false false false]
  | '+' => some exchange
  | '%' => some [.literal '%']
  | _ => none

/-- The number of digits that a specifier can fix. -/
def fixedDigits? : Char → Option Nat
  | '3' => some 3
  | '6' => some 6
  | '9' => some 9
  | _ => none

/-- The items of a specifier after its percent sign, with the rest of the format. -/
def specifier? : List Char → Option (List Item × List Char)
  | ':' :: ':' :: ':' :: 'z' :: rest => some ([.offset false false false], rest)
  | ':' :: ':' :: 'z' :: rest => some ([.offset false false false], rest)
  | ':' :: 'z' :: rest => some ([.offset false false false], rest)
  | '#' :: 'z' :: rest => some ([.offset true false true], rest)
  | '.' :: 'f' :: rest => some ([.fraction], rest)
  | '.' :: c :: 'f' :: rest => (fixedDigits? c).map fun n => ([.fixedFraction n true], rest)
  | c :: 'f' :: rest =>
    match fixedDigits? c with
    | some n => some ([.fixedFraction n false], rest)
    | none =>
      if c == '-' || c == '0' || c == '_' then some ([ofField .nanosecond], rest)
      else (ofLetter? c).map fun is => (is, 'f' :: rest)
  | c :: rest =>
    if c == '-' || c == '0' || c == '_' then
      match rest with
      | d :: rest =>
        match ofLetter? d with
        | some [.number q] => some ([.number q], rest)
        | _ => none
      | [] => none
    else (ofLetter? c).map fun is => (is, rest)
  | [] => none

/-- The items of a format; the fuel is more than its length. -/
def itemsFrom : Nat → List Char → Option (List Item)
  | _, [] => some []
  | 0, _ => none
  | fuel + 1, c :: rest =>
    if c == '%' then do
      let (is, rest) ← specifier? rest
      return is ++ (← itemsFrom fuel rest)
    else do
      let others ← itemsFrom fuel rest
      return (if isBlank c then .blanks else .literal c) :: others

/-- The items of a format. -/
def ofFormat? (format : String) : Option (List Item) :=
  itemsFrom (format.toList.length + 1) format.toList

end Item

end Vigil.Timestamp
