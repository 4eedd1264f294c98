import RecordSql.Text.Blank

/-!
# Date and time patterns

A pattern is written as text in which a percent sign starts a directive: the
name of a calendar field, with an optional padding mark. This module reads the
written form into items; a text with an unknown or unfinished directive is no
pattern.
-/

namespace RecordSql

/-- What fills the columns before a short number. -/
inductive Padding where
  | none
  | zero
  | space
  deriving DecidableEq

inductive NumberField where
  | year
  | century
  | yearOfCentury
  | isoYear
  | isoYearOfCentury
  | quarter
  | month
  | day
  | weekFromSunday
  | weekFromMonday
  | isoWeek
  | daysFromSunday
  | weekdayFromMonday
  | dayOfYear
  | hour
  | clockHour
  | minute
  | second
  | nanosecond
  | timestamp
  deriving DecidableEq

/-- A field written in words or with punctuation of its own. -/
inductive WordField where
  | shortMonth
  | longMonth
  | shortWeekday
  | longWeekday
  | lowerMeridiem
  | upperMeridiem
  /-- A point and as many digits as needed, or nothing. -/
  | fraction
  /-- A point and this many digits. -/
  | pointAndDigits (count : Nat)
  /-- This many digits of the fraction. -/
  | digits (count : Nat)
  | zoneName
  | zoneOffset
  /-- A zone offset of which the minutes may be missing. -/
  | lenientZoneOffset
  | fullTimestamp
  deriving DecidableEq

inductive PatternItem where
  | literal (character : Char)
  | blank (character : Char)
  | number (field : NumberField) (padding : Padding)
  | word (field : WordField)
  deriving DecidableEq

structure Pattern where
  items : List PatternItem
  deriving DecidableEq

namespace Pattern

private def zeroPadded (field : NumberField) : PatternItem :=
  .number field .zero

private def dateItems : List PatternItem :=
  [zeroPadded .month, .literal '/', zeroPadded .day, .literal '/',
    zeroPadded .yearOfCentury]

private def timeItems (hourField : NumberField) : List PatternItem :=
  [zeroPadded hourField, .literal ':', zeroPadded .minute, .literal ':',
    zeroPadded .second]

def letterItems? : Char → Option (List PatternItem)
  | 'A' => some [.word .longWeekday]
  | 'B' => some [.word .longMonth]
  | 'C' => some [zeroPadded .century]
  | 'D' => some dateItems
  | 'F' =>
      some [zeroPadded .year, .literal '-', zeroPadded .month, .literal '-',
        zeroPadded .day]
  | 'G' => some [zeroPadded .isoYear]
  | 'H' => some [zeroPadded .hour]
  | 'I' => some [zeroPadded .clockHour]
  | 'M' => some [zeroPadded .minute]
  | 'P' => some [.word .lowerMeridiem]
  | 'R' => some [zeroPadded .hour, .literal ':', zeroPadded .minute]
  | 'S' => some [zeroPadded .second]
  | 'T' => some (timeItems .hour)
  | 'U' => some [zeroPadded .weekFromSunday]
  | 'V' => some [zeroPadded .isoWeek]
  | 'W' => some [zeroPadded .weekFromMonday]
  | 'X' => some (timeItems .hour)
  | 'Y' => some [zeroPadded .year]
  | 'Z' => some [.word .zoneName]
  | 'a' => some [.word .shortWeekday]
  | 'b' => some [.word .shortMonth]
  | 'c' =>
      some ([.word .shortWeekday, .blank ' ', .word .shortMonth, .blank ' ',
        .number .day .space, .blank ' '] ++ timeItems .hour ++
        [.blank ' ', zeroPadded .year])
  | 'd' => some [zeroPadded .day]
  | 'e' => some [.number .day .space]
  | 'f' => some [zeroPadded .nanosecond]
  | 'g' => some [zeroPadded .isoYearOfCentury]
  | 'h' => some [.word .shortMonth]
  | 'j' => some [zeroPadded .dayOfYear]
  | 'k' => some [.number .hour .space]
  | 'l' => some [.number .clockHour .space]
  | 'm' => some [zeroPadded .month]
  | 'n' => some [.blank '\n']
  | 'p' => some [.word .upperMeridiem]
  | 'q' => some [.number .quarter .none]
  | 'r' => some (timeItems .clockHour ++ [.blank ' ', .word .upperMeridiem])
  | 's' => some [.number .timestamp .none]
  | 't' => some [.blank '\t']
  | 'u' => some [.number .weekdayFromMonday .none]
  | 'v' =>
      some [.number .day .space, .literal '-', .word .shortMonth, .literal '-',
        zeroPadded .year]
  | 'w' => some [.number .daysFromSunday .none]
  | 'x' => some dateItems
  | 'y' => some [zeroPadded .yearOfCentury]
  | 'z' => some [.word .zoneOffset]
  | '+' => some [.word .fullTimestamp]
  | '%' => some [.literal '%']
  | _ => none

/-- The item of a directive of one letter after a padding mark. Only a single
number takes one. -/
def paddedItem? (padding : Padding) (letter : Char) :
    Option (List PatternItem) :=
  match letterItems? letter with
  | some [.number field _] => some [.number field padding]
  | _ => none

def prepend (items : Option (List PatternItem))
    (rest : Option (List PatternItem)) : Option (List PatternItem) :=
  match items, rest with
  | some items, some rest => some (items ++ rest)
  | _, _ => none

def itemsOf? : List Char → Option (List PatternItem)
  | [] => some []
  | '%' :: '-' :: letter :: rest =>
      prepend (paddedItem? .none letter) (itemsOf? rest)
  | '%' :: '0' :: letter :: rest =>
      prepend (paddedItem? .zero letter) (itemsOf? rest)
  | '%' :: '_' :: letter :: rest =>
      prepend (paddedItem? .space letter) (itemsOf? rest)
  | '%' :: '#' :: 'z' :: rest =>
      prepend (some [.word .lenientZoneOffset]) (itemsOf? rest)
  | '%' :: ':' :: ':' :: ':' :: 'z' :: rest =>
      prepend (some [.word .zoneOffset]) (itemsOf? rest)
  | '%' :: ':' :: ':' :: 'z' :: rest =>
      prepend (some [.word .zoneOffset]) (itemsOf? rest)
  | '%' :: ':' :: 'z' :: rest =>
      prepend (some [.word .zoneOffset]) (itemsOf? rest)
  | '%' :: '.' :: 'f' :: rest =>
      prepend (some [.word .fraction]) (itemsOf? rest)
  | '%' :: '.' :: '3' :: 'f' :: rest =>
      prepend (some [.word (.pointAndDigits 3)]) (itemsOf? rest)
  | '%' :: '.' :: '6' :: 'f' :: rest =>
      prepend (some [.word (.pointAndDigits 6)]) (itemsOf? rest)
  | '%' :: '.' :: '9' :: 'f' :: rest =>
      prepend (some [.word (.pointAndDigits 9)]) (itemsOf? rest)
  | '%' :: '3' :: 'f' :: rest =>
      prepend (some [.word (.digits 3)]) (itemsOf? rest)
  | '%' :: '6' :: 'f' :: rest =>
      prepend (some [.word (.digits 6)]) (itemsOf? rest)
  | '%' :: '9' :: 'f' :: rest =>
      prepend (some [.word (.digits 9)]) (itemsOf? rest)
  | '%' :: letter :: rest => prepend (letterItems? letter) (itemsOf? rest)
  | '%' :: [] => none
  | character :: rest =>
    prepend
      (some [if Text.isBlank character then .blank character
        else .literal character])
      (itemsOf? rest)

/-- The pattern written as a text, none when a directive is
unknown or unfinished. -/
def ofText? (text : String) : Option Pattern :=
  (itemsOf? text.toList).map Pattern.mk

end Pattern

end RecordSql
