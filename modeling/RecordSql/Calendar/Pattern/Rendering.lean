import RecordSql.Calendar.Iso
import RecordSql.Calendar.Names
import RecordSql.Calendar.Pattern

/-!
# Rendering by a pattern

The text of a date, with or without a time of day, in the order and shape that
a pattern asks for. A pattern that asks for something the value does not have,
such as the hour of a date or any zone, gives no text.
-/

namespace RecordSql

open Number

namespace PatternItem

/-- A number filled up to a width; with a sign always written, the
width grows by it. -/
def numberChars (width : Nat) (padding : Padding) (signed : Bool)
    (value : Int) : List Char :=
  let digits := digitChars value.natAbs
  let sign := if signed ∨ value < 0 then [signChar value] else []
  let width := if signed then width + 1 else width
  match padding with
  | .none => sign ++ digits
  | .zero => sign ++ padLeft (width - sign.length) '0' digits
  | .space => padLeft width ' ' (sign ++ digits)

/-- A year, signed outside the years 0 to 9999. -/
def yearNumberChars (padding : Padding) (year : Int) : List Char :=
  numberChars 4 padding (¬ (0 ≤ year ∧ year < 10000)) year

/-- Two columns. A count of tens above nine continues with the characters after
the digits. -/
def columnPair (padding : Padding) (value : Nat) : List Char :=
  let ones := Char.ofNat (48 + value % 10)
  if value < 10 then
    match padding with
    | .none => [ones]
    | .zero => ['0', ones]
    | .space => [' ', ones]
  else [Char.ofNat (48 + value / 10), ones]

def numberField? (date : Date) (time : Option Time) (padding : Padding) :
    NumberField → Option (List Char)
  | .year => some (yearNumberChars padding date.year)
  | .century => some (columnPair padding (date.year / 100 % 256).toNat)
  | .yearOfCentury => some (columnPair padding (date.year % 100).toNat)
  | .isoYear => some (yearNumberChars padding date.isoYear)
  | .isoYearOfCentury => some (columnPair padding (date.isoYear % 100).toNat)
  | .quarter => some (digitChars date.quarter)
  | .month => some (columnPair padding date.month)
  | .day => some (columnPair padding date.day)
  | .weekFromSunday => some (columnPair padding (date.weekFrom 6))
  | .weekFromMonday => some (columnPair padding (date.weekFrom 0))
  | .isoWeek => some (columnPair padding date.isoWeek)
  | .daysFromSunday => some (digitChars ((date.weekday + 1) % 7))
  | .weekdayFromMonday => some (digitChars (date.weekday + 1))
  | .dayOfYear => some (numberChars 3 padding false date.dayOfYear)
  | .hour => time.map fun time => columnPair padding time.hour
  | .clockHour => time.map fun time => columnPair padding time.clockHour
  | .minute => time.map fun time => columnPair padding time.minute
  | .second => time.map fun time => columnPair padding time.shownSecond
  | .nanosecond => time.map fun time =>
      numberChars 9 padding false time.shownNanosecond
  | .timestamp =>
    time.map fun time =>
      numberChars 9 padding false (DateTime.timestamp ⟨date, time⟩)

def fractionDigits (count : Nat) (time : Time) : List Char :=
  padLeft count '0' (digitChars (time.shownNanosecond / Nat.pow 10 (9 - count)))

def meridiem (time : Time) : List Char :=
  if time.isAfternoon then ['P', 'M'] else ['A', 'M']

def wordField? (date : Date) (time : Option Time) :
    WordField → Option (List Char)
  | .shortMonth =>
      some (Calendar.shortName
        (Calendar.nameAt Calendar.monthNames (date.month - 1)))
  | .longMonth => some (Calendar.nameAt Calendar.monthNames (date.month - 1))
  | .shortWeekday =>
      some (Calendar.shortName
        (Calendar.nameAt Calendar.weekdayNames date.weekday))
  | .longWeekday => some (Calendar.nameAt Calendar.weekdayNames date.weekday)
  | .lowerMeridiem => time.map fun time => (meridiem time).map Char.toLower
  | .upperMeridiem => time.map meridiem
  | .fraction => time.map fun time => fractionChars time.shownNanosecond
  | .pointAndDigits count => time.map fun time =>
      '.' :: fractionDigits count time
  | .digits count => time.map fun time => fractionDigits count time
  | .zoneName | .zoneOffset | .lenientZoneOffset | .fullTimestamp => none

def render? (date : Date) (time : Option Time) :
    PatternItem → Option (List Char)
  | .literal character => some [character]
  | .blank character => some [character]
  | .number field padding => numberField? date time padding field
  | .word field => wordField? date time field

end PatternItem

namespace Pattern

def renderItems? (date : Date) (time : Option Time) :
    List PatternItem → Option (List Char)
  | [] => some []
  | item :: items => do
    let text ← item.render? date time
    let rest ← renderItems? date time items
    pure (text ++ rest)

def renderDate? (pattern : Pattern) (date : Date) : Option String :=
  (renderItems? date none pattern.items).map String.ofList

def renderDateTime? (pattern : Pattern) (datetime : DateTime) : Option String :=
  (renderItems? datetime.date (some datetime.time) pattern.items).map
    String.ofList

end Pattern

end RecordSql
