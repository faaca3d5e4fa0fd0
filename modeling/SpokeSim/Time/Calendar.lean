/-!
# Civil dates

Days of the proleptic Gregorian calendar, and the step from a day to its neighbours.  A time zone
is never more than a day away, so the two neighbours are all that moving a time between zones needs.
-/

namespace SpokeSim.Time

/-- A year is a leap year if four divides it, except for the centuries that 400 does not divide. -/
def isLeapYear (year : Int) : Bool :=
  year % 4 == 0 && (year % 100 != 0 || year % 400 == 0)

/-- The number of days of a month; 0 for what is no month. -/
def daysInMonth (year : Int) (month : Nat) : Nat :=
  match month with
  | 1 | 3 | 5 | 7 | 8 | 10 | 12 => 31
  | 4 | 6 | 9 | 11 => 30
  | 2 => if isLeapYear year then 29 else 28
  | _ => 0

/-- A day by year, month and day of the month. -/
structure Date where
  year : Int
  month : Nat
  day : Nat
deriving DecidableEq, Repr

namespace Date

/-- The earliest and the latest year that a date may have. -/
def yearRange : Int × Int := (-262143, 262142)

/-- Whether the calendar has this day, in a year of the range. -/
def isValid (d : Date) : Bool :=
  yearRange.1 ≤ d.year && d.year ≤ yearRange.2 && 1 ≤ d.day && d.day ≤ daysInMonth d.year d.month

/-- The day after. -/
def next (d : Date) : Date :=
  if d.day < daysInMonth d.year d.month then { d with day := d.day + 1 }
  else if d.month < 12 then { d with month := d.month + 1, day := 1 }
  else { year := d.year + 1, month := 1, day := 1 }

/-- The day before. -/
def previous (d : Date) : Date :=
  if 1 < d.day then { d with day := d.day - 1 }
  else if 1 < d.month then
    { d with month := d.month - 1, day := daysInMonth d.year (d.month - 1) }
  else { year := d.year - 1, month := 12, day := 31 }

end Date

end SpokeSim.Time
