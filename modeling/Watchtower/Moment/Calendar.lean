/-!
The Gregorian calendar, extended to all years: days counted from the first of January 1970.
-/

namespace Watchtower.Calendar

/-- A date of the calendar. -/
structure Date where
  year : Int
  month : Nat
  day : Nat
  deriving DecidableEq

/-- Every fourth year is a leap year, save centuries that four hundred does not divide. -/
def isLeap (year : Int) : Bool := year % 4 == 0 && (year % 100 != 0 || year % 400 == 0)

/-- The number of days in a month; none for what is no month. -/
def daysIn (year : Int) (month : Nat) : Nat :=
  if month = 2 then if isLeap year then 29 else 28
  else if month = 4 ∨ month = 6 ∨ month = 9 ∨ month = 11 then 30
  else if 1 ≤ month ∧ month ≤ 12 then 31
  else 0

namespace Date

/-- The first and last year that the calendar is kept for. -/
def firstYear : Int := -262143
def lastYear : Int := 262142

/-- The date exists and lies in a year that the calendar is kept for. -/
def isValid (d : Date) : Bool :=
  1 ≤ d.day && d.day ≤ daysIn d.year d.month && firstYear ≤ d.year && d.year ≤ lastYear

/-- The days from the first of January 1970. Years are counted from March, so that the leap day is
the last of its year, and in cycles of four hundred years. -/
def toDays (d : Date) : Int :=
  let year := if d.month ≤ 2 then d.year - 1 else d.year
  let month : Int := if d.month ≤ 2 then d.month + 9 else d.month - 3
  let cycle := year / 400
  let yearOfCycle := year % 400
  let dayOfYear := (153 * month + 2) / 5 + d.day - 1
  cycle * 146097 + yearOfCycle * 365 + yearOfCycle / 4 - yearOfCycle / 100 + dayOfYear - 719468

/-- The date of a day. -/
def ofDays (days : Int) : Date :=
  let shifted := days + 719468
  let cycle := shifted / 146097
  let dayOfCycle := shifted % 146097
  let yearOfCycle :=
    (dayOfCycle - dayOfCycle / 1460 + dayOfCycle / 36524 - dayOfCycle / 146096) / 365
  let dayOfYear := dayOfCycle - (365 * yearOfCycle + yearOfCycle / 4 - yearOfCycle / 100)
  let month := (5 * dayOfYear + 2) / 153
  let day := dayOfYear - (153 * month + 2) / 5 + 1
  let civilMonth := if month < 10 then month + 3 else month - 9
  ⟨yearOfCycle + cycle * 400 + (if civilMonth ≤ 2 then 1 else 0), civilMonth.toNat, day.toNat⟩

end Date

/-- The days that the calendar is kept for. -/
def firstDay : Int := Date.toDays ⟨Date.firstYear, 1, 1⟩
def lastDay : Int := Date.toDays ⟨Date.lastYear, 12, 31⟩

end Watchtower.Calendar
