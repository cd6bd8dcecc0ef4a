/-!
# Moments

A moment is a day of the calendar, a time of day, and the zone they are told in.
The day of the week, the day of the year and the week of the year follow from a
count of days: years are counted from the first of March, so that a leap day is
the last one, and the lengths of the months before a month are those of five
months in 153 days.
-/

namespace RoleAccess.Log

/-- A day and a time of day in a zone. Months and days are counted from one. -/
structure Moment where
  year : Nat
  month : Nat
  day : Nat
  hour : Nat
  minute : Nat
  second : Nat
  /-- The short name of the zone. -/
  zone : String := "UTC"
  /-- How many minutes the zone is ahead. -/
  offset : Int := 0
  deriving DecidableEq, Repr

namespace Moment

/-- The number of days from the first of March of the year zero. -/
def dayNumber (year month day : Nat) : Nat :=
  let years := if month ≤ 2 then year - 1 else year
  years * 365 + years / 4 - years / 100 + years / 400 +
    (153 * ((month + 9) % 12) + 2) / 5 + day - 1

/-- The number of the first day of a year. -/
def newYear (year : Nat) : Nat := dayNumber year 1 1

/-- The number of the day of a moment. -/
def number (moment : Moment) : Nat := dayNumber moment.year moment.month moment.day

/-- The day of the year, counted from zero. -/
def yearDay (moment : Moment) : Nat := moment.number - newYear moment.year

/-- The day of the week; Sunday is zero. -/
def weekday (moment : Moment) : Nat := (moment.number + 3) % 7

/-- The number of days since a weekday. -/
def daysSince (moment : Moment) (weekday : Nat) : Nat := (moment.weekday + 7 - weekday) % 7

/-- The week of the year, where weeks start at a weekday and the first one starts
in the year; the days before it are in week zero. -/
def week (moment : Moment) (start : Nat) : Nat :=
  (moment.yearDay + 7 - moment.daysSince start) / 7

/-- The number of the Thursday in the week of a moment, where weeks start on
Mondays. -/
def thursday (moment : Moment) : Nat := moment.number + 3 - moment.daysSince 1

/-- The year that the week of a moment belongs to: the one of its Thursday. -/
def weekYear (moment : Moment) : Nat :=
  if moment.thursday < newYear moment.year then moment.year - 1
  else if newYear (moment.year + 1) ≤ moment.thursday then moment.year + 1
  else moment.year

/-- The week in the year that it belongs to, counted from one. -/
def yearWeek (moment : Moment) : Nat :=
  (moment.thursday - newYear moment.weekYear) / 7 + 1

/-- The hour on a dial of twelve. -/
def dialHour (moment : Moment) : Nat :=
  if moment.hour % 12 = 0 then 12 else moment.hour % 12

/-- The number of seconds since the start of 1970. -/
def seconds (moment : Moment) : Int :=
  ((moment.number : Int) - newYear 1970) * 86400 + moment.hour * 3600 + moment.minute * 60 +
    moment.second - moment.offset * 60

/-- The name of the weekday. -/
def weekdayName (moment : Moment) : String :=
  ["Sunday", "Monday", "Tuesday", "Wednesday", "Thursday", "Friday", "Saturday"].getD
    moment.weekday ""

/-- The name of the month. -/
def monthName (moment : Moment) : String :=
  ["January", "February", "March", "April", "May", "June", "July", "August", "September",
    "October", "November", "December"].getD (moment.month - 1) ""

/-- The half of the day. -/
def half (moment : Moment) : String := if moment.hour < 12 then "AM" else "PM"

end Moment

end RoleAccess.Log
