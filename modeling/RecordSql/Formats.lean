import RecordSql.Calendar.Pattern.Reading
import RecordSql.Calendar.Pattern.Rendering
import RecordSql.Text.Letters

/-!
# Temporal formats

The two configured patterns, one for dates and one for datetimes, with the text
written by them and the lenient reading of timestamps: by the patterns, as an
internet timestamp, in international notation, and as month, day, year and time
in words.
-/

namespace RecordSql

/-- The configured patterns; a text that is no pattern reads and
writes nothing. -/
structure Formats where
  date : Option Pattern
  dateTime : Option Pattern
  deriving DecidableEq

namespace Formats

def ofTexts (date dateTime : String) : Formats :=
  ⟨Pattern.ofText? date, Pattern.ofText? dateTime⟩

/-- The date by its pattern, in international notation where that
is not possible. -/
def dateText (formats : Formats) (date : Date) : String :=
  ((formats.date.bind fun pattern => pattern.renderDate? date)).getD date.text

/-- The datetime to whole seconds in international notation. -/
def wholeSecondText (datetime : DateTime) : String :=
  String.ofList
    (datetime.date.isoChars ++ ' ' :: twoDigits datetime.time.hour ++ ':' ::
      twoDigits datetime.time.minute ++
      ':' :: twoDigits datetime.time.shownSecond)

/-- The datetime by its pattern, to whole seconds in international notation
where that is not possible. -/
def dateTimeText (formats : Formats) (datetime : DateTime) : String :=
  ((formats.dateTime.bind fun pattern => pattern.renderDateTime? datetime)).getD
    (wholeSecondText datetime)

end Formats

namespace Timestamp

/-- The patterns of datetimes in international notation that are tried in
turn. -/
def isoDateTimePatterns : List Pattern :=
  ["%Y-%m-%d %H:%M:%S%.f", "%Y-%m-%dT%H:%M:%S%.f", "%Y-%m-%d %H:%M",
    "%Y-%m-%dT%H:%M"].filterMap Pattern.ofText?

def isoDatePatterns : List Pattern :=
  ["%Y-%m-%d"].filterMap Pattern.ofText?

/-- Reads an internet timestamp, or a datetime or date in
international notation. -/
def ofIso? (text : List Char) : Option DateTime :=
  DateTime.ofInternetText? text <|>
    isoDateTimePatterns.findSome?
      (fun pattern => pattern.readDateTime? text) <|>
    (isoDatePatterns.findSome? fun pattern => pattern.readDate? text).map
      DateTime.atMidnight

/-- A month: a number from 1 to 12, or a word whose first three letters are
those of a month in any case. -/
def month? (word : List Char) : Option Nat :=
  match Number.nat32? word with
  | some number => if 1 ≤ number ∧ number ≤ 12 then some number else none
  | none =>
    let start := (word.take 3).map Char.toLower
    (Calendar.monthNames.findIdx? fun name =>
      (Calendar.shortName name).map Char.toLower == start).map (· + 1)

/-- The parts of a time between colons; a fifth part and those after
it are not read. -/
structure ClockParts where
  hour : Nat
  minute : Nat
  second : Nat
  millisecond : Nat
  deriving DecidableEq

/-- A part that may be missing counts as zero. -/
def optionalPart? (parts : List (List Char)) (index : Nat) : Option Nat :=
  match parts[index]? with
  | none => some 0
  | some part => Number.nat32? part

/-- Reads hour, minute, second and millisecond; all but the hour
may be missing. -/
def clockParts? (text : List Char) : Option ClockParts := do
  let parts := Text.splitOn (· == ':') text
  let hour ← Number.nat32? (← parts[0]?)
  let minute ← optionalPart? parts 1
  let second ← optionalPart? parts 2
  let millisecond ← optionalPart? parts 3
  pure ⟨hour, minute, second, millisecond⟩

/-- The hour on the 24-hour clock; none for a word that is no meridiem. -/
def hourWith? (meridiem : Option (List Char)) (hour : Nat) : Option Nat :=
  match meridiem with
  | none => some hour
  | some ['P', 'M'] => some (if hour < 12 then hour + 12 else hour)
  | some ['A', 'M'] => some (if hour = 12 then 0 else hour)
  | some _ => none

/-- A meridiem attached to a time, and the time without it. -/
def splitMeridiem (time : List Char) : List Char × Option (List Char) :=
  let suffix := time.drop (time.length - 2)
  if suffix = ['A', 'M'] ∨ suffix = ['P', 'M'] then
    (time.take (time.length - 2), some suffix)
  else (time, none)

/-- The datetime from the words month, day, year, time and an
optional meridiem. -/
def ofWords? (month day year time : List Char) (meridiem : Option (List Char)) :
    Option DateTime := do
  let month ← month? month
  let day ← Number.nat32? (Text.dropTrailing (· == ',') day)
  let year ← Number.int32? year
  let raised := Text.upperAsciiChars time
  let (clock, meridiem) :=
    match meridiem with
    | some word => (raised, some (Text.upperAsciiChars word))
    | none => splitMeridiem raised
  let parts ← clockParts? clock
  let hour ← hourWith? meridiem parts.hour
  let date ← Date.ofYearMonthDay? year month day
  let time ←
    Time.of? hour parts.minute parts.second (parts.millisecond * 1000000)
  pure ⟨date, time⟩

/-- Reads four or five words: month, day, year, time and perhaps a meridiem. -/
def ofMonthDayYear? (text : List Char) : Option DateTime :=
  match Text.words text with
  | [month, day, year, time] => ofWords? month day year time none
  | [month, day, year, time, meridiem] =>
      ofWords? month day year time (some meridiem)
  | _ => none

end Timestamp

namespace Formats

/-- Reads a text without blanks at its ends as a timestamp, in
every way in turn. -/
def readTrimmed? (formats : Formats) (text : List Char) : Option DateTime :=
  (formats.dateTime.bind fun pattern => pattern.readDateTime? text) <|>
    (formats.date.bind fun pattern => pattern.readDate? text).map
      DateTime.atMidnight <|> Timestamp.ofIso? text <|>
    Timestamp.ofMonthDayYear? text

/-- Reads a text as a timestamp, none when it is not one in any way. -/
def read? (formats : Formats) (text : String) : Option DateTime :=
  let trimmed := Text.trimChars text.toList
  if trimmed.isEmpty then none else formats.readTrimmed? trimmed

end Formats

end RecordSql
