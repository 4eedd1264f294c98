import RecordSql.Formats

/-!
# Timestamps in words

Which texts say a date and a time as month, day, year and time, with a
meridiem or without: relations between texts and what they say, apart from
how they are read.
-/

namespace RecordSql

/-- The words of a text.  Each has no blanks in it, and blanks
stand between them. -/
inductive Text.Spaced : List (List Char) → List Char → Prop where
  | blanks {blanks : List Char}
      (blank : ∀ character ∈ blanks, isBlank character = true) :
      Spaced [] blanks
  | word {blanks word rest : List Char} {words : List (List Char)}
      (blank : ∀ character ∈ blanks, isBlank character = true)
      (present : word ≠ [])
      (shown : ∀ character ∈ word, isBlank character = false)
      (ends : ∀ character ∈ rest.head?, isBlank character = true)
      (others : Spaced words rest) :
      Spaced (word :: words) (blanks ++ (word ++ rest))

/-- A text starts with a digit or a sign, but for blanks. -/
def Text.StartsAsNumber (text : List Char) : Prop :=
  ∃ first ∈ (dropBlanks text).head?, first.isDigit = true ∨
    first = '+' ∨ first = '-'

namespace Number

/-- The decimal digits of a number, with any zeros before them. -/
structure Digits (text : List Char) (value : Nat) : Prop where
  present : text ≠ []
  every : ∀ digit ∈ text, digit.isDigit = true
  stands : Nat.ofDigitChars 10 text 0 = value

/-- A number in digits, perhaps after a plus. -/
inductive Numeral : List Char → Nat → Prop where
  | digits {text : List Char} {value : Nat} (digits : Digits text value) :
      Numeral text value
  | plus {text : List Char} {value : Nat} (digits : Digits text value) :
      Numeral ('+' :: text) value

/-- A number in digits, perhaps after a sign. -/
inductive SignedNumeral : List Char → Int → Prop where
  | numeral {text : List Char} {value : Nat} (numeral : Numeral text value) :
      SignedNumeral text value
  | minus {text : List Char} {value : Nat} (digits : Digits text value) :
      SignedNumeral ('-' :: text) (-value)

end Number

open Number

namespace Calendar

/-- A word starts with the first three letters of the name of a
month, in any case. -/
def StartsAsMonth (word : List Char) (month : Nat) : Prop :=
  1 ≤ month ∧ month ≤ 12 ∧
    (word.take 3).map Char.toLower =
      (shortName (nameAt monthNames (month - 1))).map Char.toLower

/-- A word for a month, or its number. -/
def IsMonth (word : List Char) (month : Nat) : Prop :=
  StartsAsMonth word month ∨ Numeral word month ∧ 1 ≤ month ∧ month ≤ 12

/-- The day of a month, perhaps with commas after it. -/
def IsDay (word : List Char) (day : Nat) : Prop :=
  ∃ number commas, word = number ++ commas ∧ (∀ comma ∈ commas, comma = ',') ∧
    Numeral number day

/-- Three words that say a date. -/
structure SaysDate (month day year : List Char) (date : Date) : Prop where
  month : IsMonth month date.month
  day : IsDay day date.day
  year : SignedNumeral year date.year

end Calendar

/-- A half of the day. -/
inductive DayHalf where
  | morning
  | afternoon
  deriving DecidableEq

namespace DayHalf

def letters : DayHalf → List Char
  | morning => ['A', 'M']
  | afternoon => ['P', 'M']

/-- A word for a half of the day, in letters of any case. -/
def IsWord (half : DayHalf) (word : List Char) : Prop :=
  Text.upperAsciiChars word = half.letters

/-- The hour of the day.  Only twelve in the morning and the hours before twelve
in the afternoon are not the hour themselves. -/
def hourOfDay : DayHalf → Nat → Nat
  | morning, hour => if hour = 12 then 0 else hour
  | afternoon, hour => if hour < 12 then hour + 12 else hour

end DayHalf

def Time.half (time : Time) : DayHalf :=
  if time.isAfternoon then .afternoon else .morning

namespace Timestamp

/-- Up to four numbers with colons between them; those left out are zero. -/
inductive Clock : List Char → ClockParts → Prop where
  | hour {h : List Char} {hour : Nat} (hours : Numeral h hour) :
      Clock h ⟨hour, 0, 0, 0⟩
  | minute {h m : List Char} {hour minute : Nat} (hours : Numeral h hour)
      (minutes : Numeral m minute) : Clock (h ++ ':' :: m) ⟨hour, minute, 0, 0⟩
  | second {h m s : List Char} {hour minute second : Nat}
      (hours : Numeral h hour) (minutes : Numeral m minute)
      (seconds : Numeral s second) :
      Clock (h ++ ':' :: (m ++ ':' :: s)) ⟨hour, minute, second, 0⟩
  | millisecond {h m s ms : List Char} {hour minute second millisecond : Nat}
      (hours : Numeral h hour) (minutes : Numeral m minute)
      (seconds : Numeral s second) (milliseconds : Numeral ms millisecond) :
      Clock (h ++ ':' :: (m ++ ':' :: (s ++ ':' :: ms)))
        ⟨hour, minute, second, millisecond⟩

/-- Four numbers with colons between them, and one more colon with
anything after it. -/
inductive OverfullClock : List Char → ClockParts → Prop where
  | surplus {h m s ms : List Char} {hour minute second millisecond : Nat}
      (hours : Numeral h hour) (minutes : Numeral m minute)
      (seconds : Numeral s second) (milliseconds : Numeral ms millisecond)
      (rest : List Char) :
      OverfullClock (h ++
        ':' :: (m ++ ':' :: (s ++ ':' :: (ms ++ ':' :: rest))))
        ⟨hour, minute, second, millisecond⟩

/-- The time that the parts of a clock say with this hour of the day. -/
structure ClockParts.Tells (parts : ClockParts) (hour : Nat)
    (time : Time) : Prop where
  hour : time.hour = hour
  minute : time.minute = parts.minute
  second : time.second = parts.second
  nanosecond : time.nanosecond = parts.millisecond * 1000000

/-- One or two words that say a time, on a clock of the given form. -/
inductive SaysTime (form : List Char → ClockParts → Prop) :
    List (List Char) → Time → Prop where
  /-- The letters of a half of the day at the end of a word are
  none of its clock. -/
  | whole {word : List Char} {parts : ClockParts} {time : Time}
      (bare : ∀ before letters half, word = before ++ letters →
        ¬ DayHalf.IsWord half letters) (clock : form word parts)
      (tells : parts.Tells parts.hour time) :
      SaysTime form [word] time
  | attached {word letters : List Char} {half : DayHalf} {parts : ClockParts}
      {time : Time} (meridiem : half.IsWord letters) (clock : form word parts)
      (tells : parts.Tells (half.hourOfDay parts.hour) time) :
      SaysTime form [word ++ letters] time
  | apart {word letters : List Char} {half : DayHalf} {parts : ClockParts}
      {time : Time} (meridiem : half.IsWord letters) (clock : form word parts)
      (tells : parts.Tells (half.hourOfDay parts.hour) time) :
      SaysTime form [word, letters] time

/-- A text of four or five words that says a date and a time. -/
def InWords (form : List Char → ClockParts → Prop) (text : List Char)
    (datetime : DateTime) : Prop :=
  ∃ month day year time, Text.Spaced (month :: day :: year :: time) text ∧
    Calendar.SaysDate month day year datetime.date ∧
    SaysTime form time datetime.time

/-- The words of a time to whole milliseconds, as a server writes it: on a clock
of twelve hours with the half of the day, or on one of twenty-four.  Zeros at
the end may be left out. -/
inductive ServerTime : List (List Char) → Time → Prop where
  | whole {word : List Char} {time : Time}
      (clock : Clock word
        ⟨time.hour, time.minute, time.second, time.nanosecond / 1000000⟩) :
      ServerTime [word] time
  | attached {word letters : List Char} {time : Time}
      (meridiem : time.half.IsWord letters)
      (clock : Clock word
        ⟨time.clockHour, time.minute, time.second, time.nanosecond / 1000000⟩) :
      ServerTime [word ++ letters] time
  | apart {word letters : List Char} {time : Time}
      (meridiem : time.half.IsWord letters)
      (clock : Clock word
        ⟨time.clockHour, time.minute, time.second, time.nanosecond / 1000000⟩) :
      ServerTime [word, letters] time

/-- A text of a datetime as a server writes it, with the month by its name. -/
def InServerStyle (text : List Char) (datetime : DateTime) : Prop :=
  ∃ month day year time, Text.Spaced (month :: day :: year :: time) text ∧
    Calendar.StartsAsMonth month datetime.date.month ∧
    Calendar.IsDay day datetime.date.day ∧
    SignedNumeral year datetime.date.year ∧ ServerTime time datetime.time

end Timestamp

end RecordSql
