import RecordSql.Calendar.Date

/-!
# Times and datetimes

A time of day to the nanosecond. A leap second is the second 59 with a whole
extra second among its nanoseconds, as times are made from their parts and read
from text. Those that setting the nanoseconds of another time directly makes,
after a second other than 59, are no times here. A datetime is a date with a
time and knows no zone.
-/

namespace RecordSql

def nanosPerSecond : Nat := 1000000000

/-- A time of day. -/
structure Time where
  hour : Nat
  minute : Nat
  second : Nat
  nanosecond : Nat
  valid : hour < 24 ∧ minute < 60 ∧ second < 60 ∧ nanosecond < 2000000000 ∧
    (nanosecond < 1000000000 ∨ second = 59)
  deriving DecidableEq

namespace Time

def of? (hour minute second nanosecond : Nat) : Option Time :=
  if valid : hour < 24 ∧ minute < 60 ∧ second < 60 ∧ nanosecond < 2000000000 ∧
      (nanosecond < 1000000000 ∨ second = 59) then
    some ⟨hour, minute, second, nanosecond, valid⟩
  else none

def midnight : Time := ⟨0, 0, 0, 0, by decide⟩

/-- The second as it is written, 60 in a leap second. -/
def shownSecond (time : Time) : Nat :=
  time.second + time.nanosecond / nanosPerSecond

/-- The nanoseconds as they are written, below one second. -/
def shownNanosecond (time : Time) : Nat :=
  time.nanosecond % nanosPerSecond

/-- The hour on a twelve-hour clock, from 1 to 12. -/
def clockHour (time : Time) : Nat :=
  if time.hour % 12 = 0 then 12 else time.hour % 12

def isAfternoon (time : Time) : Bool :=
  12 ≤ time.hour

/-- The whole seconds since midnight; a leap second counts as the one before
it. -/
def secondOfDay (time : Time) : Nat :=
  3600 * time.hour + 60 * time.minute + time.second

def ofSecondOfDay? (seconds nanosecond : Nat) : Option Time :=
  of? (seconds / 3600) (seconds / 60 % 60) (seconds % 60) nanosecond

end Time

structure DateTime where
  date : Date
  time : Time
  deriving DecidableEq

namespace DateTime

def atMidnight (date : Date) : DateTime := ⟨date, .midnight⟩

/-- The seconds since the start of 1970; a leap second counts as
the one before it. -/
def timestamp (datetime : DateTime) : Int :=
  86400 * (datetime.date.number - 719163) + datetime.time.secondOfDay

/-- The datetime so many seconds after the start of 1970, if it is in range. -/
def ofTimestamp? (seconds : Int) (nanosecond : Nat) : Option DateTime := do
  let date ← Date.ofNumber? (seconds / 86400 + 719163)
  let time ← Time.ofSecondOfDay? (seconds % 86400).toNat nanosecond
  pure ⟨date, time⟩

/-- The datetime so many seconds earlier; the part of a second is kept. -/
def minusSeconds? (datetime : DateTime) (seconds : Int) : Option DateTime :=
  ofTimestamp? (datetime.timestamp - seconds) datetime.time.nanosecond

end DateTime

end RecordSql
