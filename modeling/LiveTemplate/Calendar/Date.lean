/-!
# The Gregorian calendar

Dates of the proleptic Gregorian calendar with astronomical years, so that the year before 1 is 0. A
date is a year and a day within it; the month and the day of the month, the weekday and the week
numbers are read off these. A day is counted from the first of January 1970.
-/

namespace LiveTemplate.Calendar

/-! ## Years -/

/-- Whether a year has a twenty-ninth of February. -/
def isLeap (year : Int) : Bool :=
  year % 4 == 0 && (year % 100 != 0 || year % 400 == 0)

/-- How many days lie between the first of January of the year 1 and that of a given year. -/
def daysBefore (year : Int) : Int :=
  365 * (year - 1) + (year - 1) / 4 - (year - 1) / 100 + (year - 1) / 400

/-- How many days lie between the first of January of the year 1 and the first day of the count. -/
def epochDays : Int := daysBefore 1970

/-- The year in which a day lies, counted from the first of January of the year 1: the estimate by
the mean length of a year, corrected by at most one. -/
def yearOf (day : Int) : Int :=
  let estimate := 400 * day / 146097 + 1
  if day < daysBefore estimate then estimate - 1
  else if daysBefore (estimate + 1) ≤ day then estimate + 1
  else estimate

/-! ## Dates -/

/-- A year and the number of the day within it, from zero. -/
structure Date where
  year : Int
  dayOfYear : Nat
  deriving DecidableEq, Repr

def Date.ofDays (days : Int) : Date :=
  let day := days + epochDays
  let year := yearOf day
  ⟨year, (day - daysBefore year).toNat⟩

def Date.toDays (date : Date) : Int := daysBefore date.year + date.dayOfYear - epochDays

/-! ## Months -/

def monthLengths (year : Int) : List Nat :=
  [31, if isLeap year then 29 else 28, 31, 30, 31, 30, 31, 31, 30, 31, 30, 31]

/-- The month, from zero, and the day of the month, from zero, of a day counted over months of the
given lengths. -/
def monthAndDay : List Nat → Nat → Nat × Nat
  | [], day => (0, day)
  | length :: others, day =>
    if day < length then (0, day)
    else
      let (month, rest) := monthAndDay others (day - length)
      (month + 1, rest)

namespace Date

/-- The month, from one. -/
def month (date : Date) : Nat := (monthAndDay (monthLengths date.year) date.dayOfYear).1 + 1

/-- The day of the month, from one. -/
def day (date : Date) : Nat := (monthAndDay (monthLengths date.year) date.dayOfYear).2 + 1

def quarter (date : Date) : Nat := (date.month - 1) / 3 + 1

/-! ## Weeks -/

/-- The weekday, from zero for Monday. -/
def weekday (date : Date) : Nat := ((date.toDays + 3) % 7).toNat

/-- The weekday, from zero for Sunday. -/
def weekdayFromSunday (date : Date) : Nat := (date.weekday + 1) % 7

/-- The number of the week, where weeks begin on Sunday and the first one with the first Sunday. -/
def weekFromSunday (date : Date) : Nat := (date.dayOfYear + 7 - date.weekdayFromSunday) / 7

/-- The number of the week, where weeks begin on Monday and the first one with the first Monday. -/
def weekFromMonday (date : Date) : Nat := (date.dayOfYear + 7 - date.weekday) / 7

/-- The year to which the week of a date belongs, and the number of the week in it. A week begins on
Monday and belongs to the year of its Thursday. -/
def isoWeek (date : Date) : Int × Nat :=
  let thursday := ofDays (date.toDays + 3 - date.weekday)
  (thursday.year, thursday.dayOfYear / 7 + 1)

end Date

/-! ## Names -/

def monthNames : List String :=
  ["January", "February", "March", "April", "May", "June", "July", "August", "September",
    "October", "November", "December"]

def weekdayNames : List String :=
  ["Monday", "Tuesday", "Wednesday", "Thursday", "Friday", "Saturday", "Sunday"]

def Date.monthName (date : Date) : List Char := (monthNames.getD (date.month - 1) "").toList

def Date.weekdayName (date : Date) : List Char := (weekdayNames.getD date.weekday "").toList

def shortName (name : List Char) : List Char := name.take 3

end LiveTemplate.Calendar
