/-!
# Dates

Days of the proleptic Gregorian calendar, with a year zero and negative years.
A date is kept as year, month and day; its number counts days from the first of
January of year one, which is day one and a Monday.
-/

namespace RecordSql

def isLeapYear (year : Int) : Bool :=
  year % 4 = 0 && (year % 100 ≠ 0 || year % 400 = 0)

def monthLengths (leap : Bool) : List Nat :=
  [31, if leap then 29 else 28, 31, 30, 31, 30, 31, 31, 30, 31, 30, 31]

/-- The length of a month, zero when there is no such month. -/
def daysInMonth (year : Int) (month : Nat) : Nat :=
  match month with
  | 0 => 0
  | index + 1 => (monthLengths (isLeapYear year)).getD index 0

/-- A calendar date in the years from 262144 before our era to 262142. -/
structure Date where
  year : Int
  month : Nat
  day : Nat
  valid : -262143 ≤ year ∧ year ≤ 262142 ∧ 1 ≤ day ∧
    day ≤ daysInMonth year month
  deriving DecidableEq

namespace Date

def ofYearMonthDay? (year : Int) (month day : Nat) : Option Date :=
  if valid : -262143 ≤ year ∧ year ≤ 262142 ∧ 1 ≤ day ∧
      day ≤ daysInMonth year month then
    some ⟨year, month, day, valid⟩
  else none

/-- Month and day of the `day`-th day counted from the start of the
first month listed. -/
def locate? : List Nat → Nat → Nat → Option (Nat × Nat)
  | [], _, _ => none
  | length :: lengths, month, day =>
    if day ≤ length then some (month, day)
    else locate? lengths (month + 1) (day - length)

def ofDayOfYear? (year : Int) (dayOfYear : Nat) : Option Date :=
  match locate? (monthLengths (isLeapYear year)) 1 dayOfYear with
  | none => none
  | some (month, day) => ofYearMonthDay? year month day

/-- The day of the year, from one. -/
def dayOfYear (date : Date) : Nat :=
  ((monthLengths (isLeapYear date.year)).take (date.month - 1)).foldr
    (· + ·) 0 + date.day

def daysBefore (year : Int) : Int :=
  let past := year - 1
  365 * past + past / 4 - past / 100 + past / 400

/-- The number of the date, day one being the first of January of year one. -/
def number (date : Date) : Int :=
  daysBefore date.year + date.dayOfYear

/-- The year in which a day falls, found among the three years
near the estimate. -/
def yearOf? (number : Int) : Option Int :=
  let estimate := (number - 1) * 400 / 146097 + 1
  [estimate, estimate - 1, estimate + 1].find? fun year =>
    daysBefore year < number && number ≤ daysBefore (year + 1)

def ofNumber? (number : Int) : Option Date :=
  match yearOf? number with
  | none => none
  | some year => ofDayOfYear? year (number - daysBefore year).toNat

/-- The quarter of the year, from one. -/
def quarter (date : Date) : Nat :=
  (date.month - 1) / 3 + 1

/-- The day of the week, from zero for Monday. -/
def weekday (date : Date) : Nat :=
  ((date.number - 1) % 7).toNat

/-- Days since the last day of the week numbered `start`. -/
def daysSinceWeekday (date : Date) (start : Nat) : Nat :=
  (date.weekday + 7 - start) % 7

/-- The week of the year when weeks begin on the day numbered `start`; the days
before the first such day are in week zero. -/
def weekFrom (date : Date) (start : Nat) : Nat :=
  (date.dayOfYear + 6 - date.daysSinceWeekday start) / 7

end Date

/-- The number of the Monday of the first week that has most of its
days in a year. -/
def firstIsoMonday (year : Int) : Int :=
  let fourth := Date.daysBefore year + 4
  fourth - (fourth - 1) % 7

/-- The number of weeks of a year of whole weeks. -/
def isoWeeksIn (year : Int) : Nat :=
  ((firstIsoMonday (year + 1) - firstIsoMonday year) / 7).toNat

namespace Date

/-- The year that has most days of the date's week. -/
def isoYear (date : Date) : Int :=
  if date.number < firstIsoMonday date.year then date.year - 1
  else if firstIsoMonday (date.year + 1) ≤ date.number then date.year + 1
  else date.year

/-- The week within `isoYear`, from one. -/
def isoWeek (date : Date) : Nat :=
  ((date.number - firstIsoMonday date.isoYear) / 7).toNat + 1

def ofIsoWeek? (year : Int) (week weekday : Nat) : Option Date :=
  if 1 ≤ week ∧ week ≤ isoWeeksIn year then
    ofNumber? (firstIsoMonday year + 7 * ((week : Int) - 1) + weekday)
  else none

end Date

end RecordSql
