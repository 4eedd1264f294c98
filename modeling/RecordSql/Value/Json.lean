import RecordSql.Json.Shape
import RecordSql.Record

/-!
# Values and records in JSON

Dates and datetimes are written as strings and therefore read back as strings;
bytes are an array of numbers; a double that is not finite is written as null.
-/

namespace RecordSql

namespace Value

def toJson : Value → Json
  | .null => .null
  | .boolean value => .boolean value
  | .integer value => .integer value.toInt
  | .double value => .double value
  | .dateTime value => .string value.exchangeText
  | .date value => .string value.text
  | .string value => .string value
  | .binary bytes => .array (bytes.map fun byte => .integer byte.toNat)

/-- The value of a JSON form. A whole number that does not fit 64 bits with sign
is read as a double. -/
def ofJson? : Json → Option Value
  | .null => some .null
  | .boolean value => some (.boolean value)
  | .integer value =>
    match Number.toInt64? value with
    | some whole => some (.integer whole)
    | none => some (.double (.ofInt value))
  | .double value => some (.double value)
  | .string value => some (.string value)
  | .array items => (items.mapM Json.byte?).map .binary
  | .object _ | .unreadable => none

end Value

namespace Record

def toJson (record : Record) : Json :=
  .object (record.fields.map fun field => (field.1, field.2.toJson))

/-- The record of a JSON object; of two members of one name the later counts. -/
def ofJson? : Json → Option Record
  | .object members =>
    (members.mapM fun member => (Value.ofJson? member.2).map fun value =>
      (member.1, value)).map ofList
  | _ => none

end Record

end RecordSql
