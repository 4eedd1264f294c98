import RecordSql.Column
import RecordSql.Fault
import RecordSql.Formats
import RecordSql.Statement
import RecordSql.Text.Utf8

/-!
# Binding values

A value becomes a parameter in one of two ways: by the kind of the column it is
stored in or compared with, or, where no column is known, by its own kind.
-/

namespace RecordSql

def Double.finite? (double : Double) : Option Double :=
  if double.isFinite then some double else none

/-- The whole number that a text stands for; a decimal or exponential one loses
its fraction and is held at the ends of the range. -/
def wholeOfText? (text : List Char) : Option Int64 :=
  Number.int64? text
    <|> ((Double.ofText? text).bind Double.truncate?).map Number.clampInt64

def doubleOfText? (text : List Char) : Option Double :=
  (Double.ofText? text).bind Double.finite?

namespace Value

def whole? : Value → Option Int64
  | integer value => some value
  | double value => value.truncate?.map Number.clampInt64
  | boolean value => some (if value then 1 else 0)
  | string value => wholeOfText? (Text.trimChars value.toList)
  | _ => none

def finiteDouble? : Value → Option Double
  | integer value => some (.ofInt value.toInt)
  | double value => value.finite?
  | boolean value => some (if value then .one else .zero)
  | string value => doubleOfText? (Text.trimChars value.toList)
  | _ => none

end Value

namespace Formats

/-- The plain text of a value, dates and datetimes by their patterns. -/
def plainText (formats : Formats) : Value → String
  | .null => ""
  | .boolean true => "1"
  | .boolean false => "0"
  | .integer value => Number.int64Text value
  | .double value => value.text
  | .date value => formats.dateText value
  | .dateTime value => formats.dateTimeText value
  | .string value => value
  | .binary bytes => Text.textOfBytes bytes

/-- The text bound to a date column. A text that reads as a timestamp is
rewritten, any other is kept. -/
def dateColumnText (formats : Formats) : Value → String
  | .date value => formats.dateText value
  | .dateTime value => formats.dateText value.date
  | .string value =>
    match formats.read? value with
    | some datetime => formats.dateText datetime.date
    | none => value
  | value => formats.plainText value

/-- The text bound to a datetime column. A text that reads as a timestamp is
rewritten, any other is kept. -/
def dateTimeColumnText (formats : Formats) : Value → String
  | .date value => formats.dateTimeText (.atMidnight value)
  | .string value =>
    match formats.read? value with
    | some datetime => formats.dateTimeText datetime
    | none => value
  | value => formats.plainText value

/-- The parameter bound to a boolean column. A text that is no
boolean is kept. -/
def booleanParam (formats : Formats) : Value → Param
  | .boolean value => .boolean value
  | .integer value => .boolean (value != 0)
  | .double value => .boolean (!value.isZero)
  | .string value =>
    let word := Text.lowerAscii (Text.trim value)
    if word ∈ ["1", "true"] then .boolean true
    else if word ∈ ["0", "false", ""] then .boolean false
    else .text value
  | value => .text (formats.plainText value)

/-- Binds a value to a column; null is null in every column. -/
def bind (formats : Formats) (value : Value) (column : Column) :
    Except Fault Param :=
  match value with
  | .null => .ok .null
  | value =>
    match column.kind with
    | .integer =>
      match value.whole? with
      | some whole => .ok (.integer whole)
      | none => .error (.invalidValue column.name "integer" value.text)
    | .double =>
      match value.finiteDouble? with
      | some double => .ok (.double double)
      | none => .error (.invalidValue column.name "double" value.text)
    | .date => .ok (.text (formats.dateColumnText value))
    | .dateTime => .ok (.text (formats.dateTimeColumnText value))
    | .binary =>
      match value with
      | .binary bytes => .ok (.bytes bytes)
      | .string text => .ok (.bytes (Text.utf8Bytes text))
      | value => .error (.invalidValue column.name "binary" value.kindName)
    | .boolean => .ok (formats.booleanParam value)
    | .string => .ok (.text (formats.plainText value))

def bindOperand (formats : Formats) : Value → Except Fault Param
  | .null => .ok .null
  | .boolean value => .ok (.boolean value)
  | .integer value => .ok (.integer value)
  | .double value =>
    if value.isFinite then .ok (.double value)
    else .error (.unsupportedOperand ("non-finite double " ++ value.text))
  | .date value => .ok (.text (formats.dateText value))
  | .dateTime value => .ok (.text (formats.dateTimeText value))
  | .string value => .ok (.text value)
  | .binary bytes => .ok (.bytes bytes)

end Formats

end RecordSql
