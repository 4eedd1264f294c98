import RecordSql.Calendar.Fields
import RecordSql.Calendar.Names
import RecordSql.Calendar.Pattern
import RecordSql.Number.Whole

/-!
# Reading by a pattern

The items of a pattern are read from a text from left to right. Blanks in the
pattern stand for any run of blanks, also for none, and blanks may precede every
number; numbers need not be padded. The fields read are resolved at the end.
-/

namespace RecordSql

namespace Reading

/-- Up to so many digits at the start of a text, at least the given number of
them, and what follows. -/
def number? (least most : Nat) (text : List Char) : Option (Nat × List Char) :=
  let digits := (text.take most).takeWhile Char.isDigit
  if digits.isEmpty || digits.length < least then none
  else some (Nat.ofDigitChars 10 digits 0, text.drop digits.length)

/-- All digits at the start of a text, at least one, and what follows. The
number must fit 64 bits with a sign. -/
def longNumber? (text : List Char) : Option (Nat × List Char) :=
  (number? 1 text.length text).filter fun (value, _) =>
    (value : Int) ≤ Number.greatestInt64

/-- Up to four digits, or a sign and any number of digits. -/
def year? : List Char → Option (Int × List Char)
  | '-' :: rest => (longNumber? rest).map fun (value, rest) =>
      (-(value : Int), rest)
  | '+' :: rest => (longNumber? rest).map fun (value, rest) =>
      ((value : Int), rest)
  | text => (number? 1 4 text).map fun (value, rest) => ((value : Int), rest)

def fraction? (text : List Char) : Option (Nat × List Char) :=
  (number? 1 9 text).map fun (value, rest) =>
    (value * Nat.pow 10 (9 - (text.length - rest.length)),
      rest.dropWhile Char.isDigit)

/-- A fraction of a second in exactly so many digits. -/
def fixedFraction? (count : Nat) (text : List Char) :
    Option (Nat × List Char) :=
  (number? count count text).map fun (value, rest) =>
    (value * Nat.pow 10 (9 - count), rest)

/-- A sign: minus is true. The minus of typesetters counts as one. -/
def sign? : List Char → Option (Bool × List Char)
  | '+' :: rest => some (false, rest)
  | '-' :: rest => some (true, rest)
  | '\u2212' :: rest => some (true, rest)
  | _ => none

/-- The minutes of a zone offset, two digits below sixty. -/
def offsetMinutes? : List Char → Option (Nat × List Char)
  | tens :: ones :: rest =>
    if '0' ≤ tens ∧ tens ≤ '5' ∧ ones.isDigit then
      some (10 * (tens.toNat - 48) + (ones.toNat - 48), rest)
    else none
  | _ => none

/-- A zone offset in seconds: a sign, two digits of hours, what may
stand between, and two digits of minutes. The letter Z stands for zero
where it is allowed. -/
def offset? (between : List Char → Option (List Char))
    (zulu optionalMinutes : Bool) (text : List Char) :
    Option (Int × List Char) :=
  match zulu, text with
  | true, 'Z' :: rest => some (0, rest)
  | true, 'z' :: rest => some (0, rest)
  | _, _ => do
    let (negative, rest) ← sign? text
    let (hours, rest) ← number? 2 2 rest
    let rest ← between rest
    let (minutes, rest) ← if optionalMinutes && rest.isEmpty then some (0, [])
      else offsetMinutes? rest
    let seconds : Int := 3600 * hours + 60 * minutes
    pure (if negative then -seconds else seconds, rest)

def skipColons (text : List Char) : Option (List Char) :=
  some (text.dropWhile fun character =>
    character == ':' || Text.isBlank character)

def after? (expected : Char) : List Char → Option (List Char)
  | [] => none
  | character :: rest => if character = expected then some rest else none

/-- Morning is zero and afternoon one. -/
def meridiem? (text : List Char) : Option (Nat × List Char) :=
  match Calendar.afterWord? ['a', 'm'] text,
      Calendar.afterWord? ['p', 'm'] text with
  | some rest, _ => some (0, rest)
  | none, some rest => some (1, rest)
  | none, none => none

end Reading

def between? (least most value : Nat) : Option Nat :=
  if least ≤ value ∧ value ≤ most then some value else none

namespace CalendarFields

def setMonth? (fields : CalendarFields) (value : Nat) :
    Option CalendarFields := do
  let month ← agree? fields.month (← between? 1 12 value)
  pure { fields with month := month }

def setDay? (fields : CalendarFields) (value : Nat) :
    Option CalendarFields := do
  let day ← agree? fields.day (← between? 1 31 value)
  pure { fields with day := day }

def setYear? (fields : CalendarFields) (value : Int) :
    Option CalendarFields := do
  let year ← agree? fields.year value
  pure { fields with year := year }

def setWeekday? (fields : CalendarFields) (value : Nat) :
    Option CalendarFields := do
  let weekday ← agree? fields.weekday value
  pure { fields with weekday := weekday }

def setHalf? (fields : CalendarFields) (value : Nat) :
    Option CalendarFields := do
  let half ← agree? fields.half value
  pure { fields with half := half }

def setHourOfHalf? (fields : CalendarFields) (value : Nat) :
    Option CalendarFields := do
  let hourOfHalf ← agree? fields.hourOfHalf value
  pure { fields with hourOfHalf := hourOfHalf }

def setHour? (fields : CalendarFields) (value : Nat) :
    Option CalendarFields := do
  let hour ← between? 0 23 value
  let fields ← fields.setHalf? (hour / 12)
  fields.setHourOfHalf? (hour % 12)

def setMinute? (fields : CalendarFields) (value : Nat) :
    Option CalendarFields := do
  let minute ← agree? fields.minute (← between? 0 59 value)
  pure { fields with minute := minute }

def setSecond? (fields : CalendarFields) (value : Nat) :
    Option CalendarFields := do
  let second ← agree? fields.second (← between? 0 60 value)
  pure { fields with second := second }

def setNanosecond? (fields : CalendarFields) (value : Nat) :
    Option CalendarFields := do
  let nanosecond ← agree? fields.nanosecond value
  pure { fields with nanosecond := nanosecond }

def setOffset? (fields : CalendarFields) (value : Int) :
    Option CalendarFields := do
  let offset ← agree? fields.offset value
  pure { fields with offset := offset }

/-- The greatest number of digits read for a field without sign. -/
def digitLimit : NumberField → Nat
  | .quarter | .daysFromSunday | .weekdayFromMonday => 1
  | .dayOfYear => 3
  | .nanosecond => 9
  | _ => 2

def setNumber? (fields : CalendarFields) (field : NumberField) (value : Nat) :
    Option CalendarFields :=
  match field with
  | .year => fields.setYear? value
  | .century => do
    let century ← agree? fields.century value
    pure { fields with century := century }
  | .yearOfCentury => do
    let yearOfCentury ← agree? fields.yearOfCentury value
    pure { fields with yearOfCentury := yearOfCentury }
  | .isoYear => do
    let isoYear ← agree? fields.isoYear (value : Int)
    pure { fields with isoYear := isoYear }
  | .isoYearOfCentury => do
    let isoYearOfCentury ← agree? fields.isoYearOfCentury value
    pure { fields with isoYearOfCentury := isoYearOfCentury }
  | .quarter => do
    let quarter ← agree? fields.quarter (← between? 1 4 value)
    pure { fields with quarter := quarter }
  | .month => fields.setMonth? value
  | .day => fields.setDay? value
  | .weekFromSunday => do
    let week ← agree? fields.weekFromSunday (← between? 0 53 value)
    pure { fields with weekFromSunday := week }
  | .weekFromMonday => do
    let week ← agree? fields.weekFromMonday (← between? 0 53 value)
    pure { fields with weekFromMonday := week }
  | .isoWeek => do
    let week ← agree? fields.isoWeek (← between? 1 53 value)
    pure { fields with isoWeek := week }
  | .daysFromSunday => do
    let days ← between? 0 6 value
    fields.setWeekday? ((days + 6) % 7)
  | .weekdayFromMonday => do
    let position ← between? 1 7 value
    fields.setWeekday? (position - 1)
  | .dayOfYear => do
    let dayOfYear ← agree? fields.dayOfYear (← between? 1 366 value)
    pure { fields with dayOfYear := dayOfYear }
  | .hour => fields.setHour? value
  | .clockHour => do
    let hour ← between? 1 12 value
    fields.setHourOfHalf? (hour % 12)
  | .minute => fields.setMinute? value
  | .second => fields.setSecond? value
  | .nanosecond => fields.setNanosecond? value
  | .timestamp => do
    let timestamp ← agree? fields.timestamp (value : Int)
    pure { fields with timestamp := timestamp }

/-- Reads a number field; blanks before it are passed over. -/
def readNumber? (fields : CalendarFields) (field : NumberField)
    (text : List Char) : Option (CalendarFields × List Char) :=
  let text := Text.dropBlanks text
  match field with
  | .year => do
    let (year, rest) ← Reading.year? text
    pure (← fields.setYear? year, rest)
  | .isoYear => do
    let (year, rest) ← Reading.year? text
    let isoYear ← agree? fields.isoYear year
    pure ({ fields with isoYear := isoYear }, rest)
  | .timestamp => do
    let (value, rest) ← Reading.longNumber? text
    pure (← fields.setNumber? .timestamp value, rest)
  | field => do
    let (value, rest) ← Reading.number? 1 (digitLimit field) text
    pure (← fields.setNumber? field value, rest)

def readFixed? (fields : CalendarFields) (field : NumberField) (count : Nat)
    (text : List Char) : Option (CalendarFields × List Char) := do
  let (value, rest) ← Reading.number? count count text
  pure (← fields.setNumber? field value, rest)

/-- Reads a point and a fraction, if there is a point. -/
def readFraction? (fields : CalendarFields) (text : List Char) :
    Option (CalendarFields × List Char) :=
  match text with
  | '.' :: rest => do
    let (nanosecond, rest) ← Reading.fraction? rest
    pure (← fields.setNanosecond? nanosecond, rest)
  | _ => some (fields, text)

def readOffset? (fields : CalendarFields) (zulu optionalMinutes : Bool)
    (text : List Char) : Option (CalendarFields × List Char) := do
  let (offset, rest) ← Reading.offset? Reading.skipColons zulu optionalMinutes
    (Text.dropBlanks text)
  pure (← fields.setOffset? offset, rest)

/-- Reads the separator of date and time: a blank of ASCII or the letter T. -/
def afterDate? : List Char → Option (List Char)
  | 't' :: rest => some rest
  | 'T' :: rest => some rest
  | ' ' :: rest => some rest
  | _ => none

/-- Reads a whole timestamp with blanks allowed between its parts; UTC may stand
for the zone offset. -/
def readFullTimestamp? (fields : CalendarFields) (text : List Char) :
    Option (CalendarFields × List Char) := do
  let (fields, text) ← fields.readNumber? .year text
  let text ← Reading.after? '-' (Text.dropBlanks text)
  let (fields, text) ← fields.readNumber? .month text
  let text ← Reading.after? '-' (Text.dropBlanks text)
  let (fields, text) ← fields.readNumber? .day text
  let text ← afterDate? text
  let (fields, text) ← fields.readNumber? .hour text
  let text ← Reading.after? ':' (Text.dropBlanks text)
  let (fields, text) ← fields.readNumber? .minute text
  let text ← Reading.after? ':' (Text.dropBlanks text)
  let (fields, text) ← fields.readNumber? .second text
  let (fields, text) ← fields.readFraction? text
  let text := Text.dropBlanks text
  match Calendar.afterWord? ['u', 't', 'c'] text with
  | some rest => do pure (← fields.setOffset? 0, rest)
  | none => fields.readOffset? true false text

def readWord? (fields : CalendarFields) (field : WordField) (text : List Char) :
    Option (CalendarFields × List Char) :=
  match field with
  | .shortMonth => do
    let (index, rest) ← Calendar.readShortName? text 0 Calendar.monthNames
    pure (← fields.setMonth? (index + 1), rest)
  | .longMonth => do
    let (index, rest) ← Calendar.readName? Calendar.monthNames text
    pure (← fields.setMonth? (index + 1), rest)
  | .shortWeekday => do
    let (index, rest) ← Calendar.readShortName? text 0 Calendar.weekdayNames
    pure (← fields.setWeekday? index, rest)
  | .longWeekday => do
    let (index, rest) ← Calendar.readName? Calendar.weekdayNames text
    pure (← fields.setWeekday? index, rest)
  | .lowerMeridiem | .upperMeridiem => do
    let (half, rest) ← Reading.meridiem? text
    pure (← fields.setHalf? half, rest)
  | .fraction => fields.readFraction? text
  | .pointAndDigits count =>
    match text with
    | '.' :: rest => do
      let (nanosecond, rest) ← Reading.fixedFraction? count rest
      pure (← fields.setNanosecond? nanosecond, rest)
    | _ => some (fields, text)
  | .digits count => do
    let (nanosecond, rest) ← Reading.fixedFraction? count text
    pure (← fields.setNanosecond? nanosecond, rest)
  | .zoneName =>
      some (fields, text.dropWhile fun character => !Text.isBlank character)
  | .zoneOffset => fields.readOffset? false false text
  | .lenientZoneOffset => fields.readOffset? true true text
  | .fullTimestamp => fields.readFullTimestamp? text

def readItem? (fields : CalendarFields) (item : PatternItem)
    (text : List Char) : Option (CalendarFields × List Char) :=
  match item with
  | .literal character => (Reading.after? character text).map fun rest =>
      (fields, rest)
  | .blank _ => some (fields, Text.dropBlanks text)
  | .number field _ => fields.readNumber? field text
  | .word field => fields.readWord? field text

def readItems? (fields : CalendarFields) :
    List PatternItem → List Char → Option CalendarFields
  | [], [] => some fields
  | [], _ :: _ => none
  | item :: items, text =>
    match fields.readItem? item text with
    | none => none
    | some (fields, rest) => fields.readItems? items rest

end CalendarFields

namespace Pattern

def readDate? (pattern : Pattern) (text : List Char) : Option Date :=
  match ({} : CalendarFields).readItems? pattern.items text with
  | none => none
  | some fields => fields.date?.toOption

def readDateTime? (pattern : Pattern) (text : List Char) : Option DateTime :=
  match ({} : CalendarFields).readItems? pattern.items text with
  | none => none
  | some fields => fields.dateTime?

end Pattern

/-- Reads an internet timestamp: four-digit year, two-digit parts, an optional
fraction, and a zone offset of less than a day. -/
def CalendarFields.readInternet? (text : List Char) :
    Option (CalendarFields × List Char) := do
  let (fields, text) ← ({} : CalendarFields).readFixed? .year 4 text
  let text ← Reading.after? '-' text
  let (fields, text) ← fields.readFixed? .month 2 text
  let text ← Reading.after? '-' text
  let (fields, text) ← fields.readFixed? .day 2 text
  let text ← afterDate? text
  let (fields, text) ← fields.readFixed? .hour 2 text
  let text ← Reading.after? ':' text
  let (fields, text) ← fields.readFixed? .minute 2 text
  let text ← Reading.after? ':' text
  let (fields, text) ← fields.readFixed? .second 2 text
  let (fields, text) ← fields.readFraction? text
  let (offset, rest) ← Reading.offset? (Reading.after? ':') true false text
  if offset.natAbs < 86400 then pure (← fields.setOffset? offset, rest)
  else none

/-- The datetime on the prime meridian that an internet timestamp denotes. -/
def DateTime.ofInternetText? (text : List Char) : Option DateTime :=
  match CalendarFields.readInternet? text with
  | some (fields, []) => do
    let datetime ← fields.dateTime?
    datetime.minusSeconds? (← fields.offset)
  | _ => none

end RecordSql
