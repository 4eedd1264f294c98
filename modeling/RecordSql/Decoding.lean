import RecordSql.Binding

/-!
# Decoding cells

A cell becomes a value by the base name of its column's declared type. A cell
that does not fit the type keeps the value of its own kind, so decoding never
fails.
-/

namespace RecordSql

namespace Cell

def doubleValue : Cell → Value
  | integer value => .double (.ofInt value.toInt)
  | text value =>
    match Double.ofText? (Text.trimChars value.toList) with
    | some double => .double double
    | none => .string value
  | cell => cell.value

def integerValue : Cell → Value
  | real value =>
    match value.truncate? with
    | some whole => .integer (Number.clampInt64 whole)
    | none => .double value
  | boolean value => .integer (if value then 1 else 0)
  | text value =>
    match Number.int64? (Text.trimChars value.toList) with
    | some whole => .integer whole
    | none => .string value
  | cell => cell.value

def bytesValue : Cell → Value
  | text value => .binary (Text.utf8Bytes value)
  | cell => cell.value

end Cell

namespace Formats

def dateValue (formats : Formats) : Cell → Value
  | .text value =>
    match formats.read? value with
    | some datetime => .date datetime.date
    | none => .string value
  | cell => cell.value

def dateTimeValue (formats : Formats) : Cell → Value
  | .text value =>
    match formats.read? value with
    | some datetime => .dateTime datetime
    | none => .string value
  | cell => cell.value

/-- The value of a cell in a column whose type has this base name. -/
def decodeBase (formats : Formats) (base : String) (cell : Cell) : Value :=
  if base ∈ ["double", "float", "decimal", "real", "numeric"] then
    cell.doubleValue
  else if base ∈ ["tinyint", "smallint", "mediumint", "int", "integer", "long",
      "bigint"] then
    cell.integerValue
  else if base ∈ ["tinyblob", "smallblob", "blob", "mediumblob", "longblob",
      "bigblob", "binary", "varbinary"] then
    cell.bytesValue
  else if base = "date" then formats.dateValue cell
  else if base ∈ ["datetime", "timestamp"] then formats.dateTimeValue cell
  else cell.value

def decode (formats : Formats) (cell : Cell) (type : String) : Value :=
  match cell with
  | .null => .null
  | cell => formats.decodeBase (baseType type) cell

end Formats

end RecordSql
