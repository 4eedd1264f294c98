import RecordSql.Calendar.Time
import RecordSql.Number.Whole

/-!
# International notation of dates and times

Years have four digits, and a sign as well outside the years 0 to 9999. A
fraction of a second is written with three, six or nine digits, the fewest that
lose nothing, and not at all when it is zero.
-/

namespace RecordSql

open Number

/-- A number below one hundred in two digits. -/
def twoDigits (value : Nat) : List Char :=
  padLeft 2 '0' (digitChars value)

def signChar (value : Int) : Char :=
  if value < 0 then '-' else '+'

/-- A year in four digits, or in at least four digits after a sign. -/
def yearChars (year : Int) : List Char :=
  let digits := padLeft 4 '0' (digitChars year.natAbs)
  if 0 ≤ year ∧ year ≤ 9999 then digits else signChar year :: digits

def Date.isoChars (date : Date) : List Char :=
  yearChars date.year ++ '-' :: twoDigits date.month ++
    '-' :: twoDigits date.day

/-- A point and the fewest of three, six or nine digits; nothing for zero. -/
def fractionChars (nanosecond : Nat) : List Char :=
  if nanosecond = 0 then []
  else if nanosecond % 1000000 = 0 then
    '.' :: padLeft 3 '0' (digitChars (nanosecond / 1000000))
  else if nanosecond % 1000 = 0 then
    '.' :: padLeft 6 '0' (digitChars (nanosecond / 1000))
  else '.' :: padLeft 9 '0' (digitChars nanosecond)

def Time.isoChars (time : Time) : List Char :=
  twoDigits time.hour ++ ':' :: twoDigits time.minute ++
    ':' :: twoDigits time.shownSecond ++
    fractionChars time.shownNanosecond

def DateTime.isoChars (separator : Char) (datetime : DateTime) : List Char :=
  datetime.date.isoChars ++ separator :: datetime.time.isoChars

def Date.text (date : Date) : String :=
  String.ofList date.isoChars

/-- The datetime in international notation, with a space before the time. -/
def DateTime.text (datetime : DateTime) : String :=
  String.ofList (datetime.isoChars ' ')

/-- The datetime in international notation, with the letter T
before the time. -/
def DateTime.exchangeText (datetime : DateTime) : String :=
  String.ofList (datetime.isoChars 'T')

end RecordSql
