import RecordSql.Calendar.Time

/-!
# Calendar fields read so far

Reading a text by a pattern collects fields; this module resolves them into a
date, a time or a datetime. Fields may overlap, and then they must agree: a
weekday that is not the weekday of the day leads to no date.
-/

namespace RecordSql

/-- The fields that a text has given. -/
structure CalendarFields where
  year : Option Int := none
  century : Option Nat := none
  yearOfCentury : Option Nat := none
  isoYear : Option Int := none
  isoYearOfCentury : Option Nat := none
  quarter : Option Nat := none
  month : Option Nat := none
  day : Option Nat := none
  weekFromSunday : Option Nat := none
  weekFromMonday : Option Nat := none
  isoWeek : Option Nat := none
  /-- From zero for Monday. -/
  weekday : Option Nat := none
  dayOfYear : Option Nat := none
  /-- Zero before noon, one from noon on. -/
  half : Option Nat := none
  /-- The hour within its half of the day. -/
  hourOfHalf : Option Nat := none
  minute : Option Nat := none
  /-- Up to 60, which stands for a leap second. -/
  second : Option Nat := none
  nanosecond : Option Nat := none
  timestamp : Option Int := none
  /-- Seconds east of the prime meridian. -/
  offset : Option Int := none

/-- Why fields lead to no value: too few, or no value has all of them. -/
inductive FieldFault where
  | tooFew
  | unfit
  deriving DecidableEq

/-- A field given once more must not change. -/
def agree? {α : Type} [DecidableEq α] (known : Option α) (value : α) :
    Option (Option α) :=
  match known with
  | none => some (some value)
  | some old => if old = value then some (some value) else none

def matchesGiven {α : Type} [DecidableEq α] (given : Option α)
    (value : α) : Bool :=
  match given with
  | none => true
  | some expected => expected = value

namespace CalendarFields

/-- The year that a full year, a century and a year of the century agree on. Two
digits alone mean the years from 1970 to 2069. -/
def resolveYear (year : Option Int) (century yearOfCentury : Option Nat) :
    Except FieldFault (Option Int) :=
  match year, century, yearOfCentury with
  | year, none, none => .ok year
  | some year, century, yearOfCentury =>
    if 0 ≤ year ∧ matchesGiven century (year / 100).toNat ∧
        matchesGiven yearOfCentury (year % 100).toNat then
      .ok (some year)
    else .error .unfit
  | none, some century, some yearOfCentury =>
      .ok (some (100 * century + yearOfCentury))
  | none, none, some yearOfCentury =>
    .ok (some (yearOfCentury + if yearOfCentury < 70 then 2000 else 1900))
  | none, some _, none => .error .tooFew

/-- Century and year of the century as given must fit a year; no
negative year fits. -/
def fitsCentury (century yearOfCentury : Option Nat) (year : Int) : Bool :=
  if 0 ≤ year then
    matchesGiven century (year / 100).toNat &&
      matchesGiven yearOfCentury (year % 100).toNat
  else century.isNone && yearOfCentury.isNone

def fitsYearMonthDay (fields : CalendarFields) (date : Date) : Bool :=
  matchesGiven fields.year date.year &&
    fitsCentury fields.century fields.yearOfCentury date.year &&
    matchesGiven fields.month date.month && matchesGiven fields.day date.day

def fitsIsoWeek (fields : CalendarFields) (date : Date) : Bool :=
  matchesGiven fields.isoYear date.isoYear &&
    fitsCentury none fields.isoYearOfCentury date.isoYear &&
    matchesGiven fields.isoWeek date.isoWeek &&
    matchesGiven fields.weekday date.weekday

def fitsDayOfYear (fields : CalendarFields) (date : Date) : Bool :=
  matchesGiven fields.dayOfYear date.dayOfYear &&
    matchesGiven fields.weekFromSunday (date.weekFrom 6) &&
    matchesGiven fields.weekFromMonday (date.weekFrom 0)

/-- The date in a week counted from the first day numbered `start` of a year. -/
def dateOfWeek? (year : Int) (week weekday start : Nat) : Option Date := do
  let first ← Date.ofDayOfYear? year 1
  let weekStart := 1 + (start + 7 - first.weekday) % 7
  let position := weekStart + 7 * week + (weekday + 7 - start) % 7
  if position ≤ 7 then none else Date.ofDayOfYear? year (position - 7)

def settled (date : Option Date) (fits : Date → Bool) :
    Except FieldFault Date :=
  match date with
  | none => .error .unfit
  | some date => if fits date then .ok date else .error .unfit

/-- The date from the first sufficient group: month and day, day of the year,
week from Sunday or Monday, whole week; all given fields must fit it. -/
def date? (fields : CalendarFields) : Except FieldFault Date := do
  let year ← resolveYear fields.year fields.century fields.yearOfCentury
  let isoYear ← resolveYear fields.isoYear none fields.isoYearOfCentury
  let fitsQuarter (date : Date) := matchesGiven fields.quarter date.quarter
  let fitsAll (date : Date) :=
    fields.fitsYearMonthDay date && fields.fitsIsoWeek date &&
      fields.fitsDayOfYear date && fitsQuarter date
  match year, fields.month, fields.day with
  | some year, some month, some day =>
    settled (Date.ofYearMonthDay? year month day) fun date =>
      fields.fitsIsoWeek date && fields.fitsDayOfYear date && fitsQuarter date
  | _, _, _ =>
  match year, fields.dayOfYear with
  | some year, some dayOfYear =>
      settled (Date.ofDayOfYear? year dayOfYear) fitsAll
  | _, _ =>
  match year, fields.weekFromSunday, fields.weekday with
  | some year, some week, some weekday =>
      settled (dateOfWeek? year week weekday 6) fitsAll
  | _, _, _ =>
  match year, fields.weekFromMonday, fields.weekday with
  | some year, some week, some weekday =>
      settled (dateOfWeek? year week weekday 0) fitsAll
  | _, _, _ =>
  match isoYear, fields.isoWeek, fields.weekday with
  | some isoYear, some week, some weekday =>
    settled (Date.ofIsoWeek? isoYear week weekday) fun date =>
      fields.fitsYearMonthDay date && fields.fitsDayOfYear date &&
        fitsQuarter date
  | _, _, _ => .error .tooFew

/-- The time of day. Hour and minute must be given; a fraction
needs a second. -/
def time? (fields : CalendarFields) : Except FieldFault Time :=
  match fields.half, fields.hourOfHalf, fields.minute with
  | some half, some hourOfHalf, some minute =>
    let leap := if fields.second = some 60 then nanosPerSecond else 0
    let second := if fields.second = some 60 then 59 else fields.second.getD 0
    if fields.nanosecond.isSome ∧ fields.second.isNone then .error .tooFew
    else
      match Time.of? (12 * half + hourOfHalf) minute second
          (leap + fields.nanosecond.getD 0) with
      | none => .error .unfit
      | some time => .ok time
  | _, _, _ => .error .tooFew

def withTimestamp? (fields : CalendarFields) (timestamp : Int) :
    Option CalendarFields := do
  let datetime ← DateTime.ofTimestamp? timestamp 0
  let (datetime, second) ←
    if fields.second = some 60 then
      if datetime.time.second = 59 then some (datetime, 60)
      else if datetime.time.second = 0 then
        (DateTime.ofTimestamp? (timestamp - 1) 0).map fun earlier =>
          (earlier, 60)
      else none
    else some (datetime, datetime.time.second)
  let second ← agree? fields.second second
  let year ← agree? fields.year datetime.date.year
  let dayOfYear ← agree? fields.dayOfYear datetime.date.dayOfYear
  let half ← agree? fields.half (datetime.time.hour / 12)
  let hourOfHalf ← agree? fields.hourOfHalf (datetime.time.hour % 12)
  let minute ← agree? fields.minute datetime.time.minute
  pure { fields with
    second := second
    year := year
    dayOfYear := dayOfYear
    half := half
    hourOfHalf := hourOfHalf
    minute := minute }

/-- Whether a timestamp as given belongs to the datetime; a leap second may be
counted as the second after it. -/
def fitsTimestamp (fields : CalendarFields) (datetime : DateTime) : Bool :=
  match fields.timestamp with
  | none => true
  | some timestamp =>
    timestamp = datetime.timestamp ||
      (nanosPerSecond ≤ datetime.time.nanosecond &&
        timestamp = datetime.timestamp + 1)

/-- The datetime: a date and a time, or a timestamp that supplies
what is missing. -/
def dateTime? (fields : CalendarFields) : Option DateTime :=
  match fields.date?, fields.time? with
  | .ok date, .ok time =>
    let datetime : DateTime := ⟨date, time⟩
    if fields.fitsTimestamp datetime then some datetime else none
  | .error .unfit, _ => none
  | _, .error .unfit => none
  | _, _ => do
    let timestamp ← fields.timestamp
    let completed ← fields.withTimestamp? timestamp
    let date ← completed.date?.toOption
    let time ← completed.time?.toOption
    pure ⟨date, time⟩

end CalendarFields

end RecordSql
