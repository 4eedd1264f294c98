import RecordSql.Calendar.Iso
import RecordSql.Number.Text

/-!
# Values

The values that records hold and conditions compare with, and the cells that a
driver returns.
-/

namespace RecordSql

inductive Value where
  | null
  | boolean (value : Bool)
  | integer (value : Int64)
  | double (value : Double)
  | dateTime (value : DateTime)
  | date (value : Date)
  | string (value : String)
  | binary (bytes : List UInt8)
  deriving DecidableEq

namespace Value

def isNull : Value → Bool
  | null => true
  | _ => false

theorem isNull_iff {value : Value} : value.isNull = true ↔ value = null := by
  cases value <;> simp [isNull]

theorem isNull_eq_false_iff {value : Value} :
    value.isNull = false ↔ value ≠ null := by
  cases value <;> simp [isNull]

def isNumeric : Value → Bool
  | integer _ | double _ => true
  | _ => false

/-- The name of the kind of value, for messages. -/
def kindName : Value → String
  | null => "null"
  | boolean _ => "boolean"
  | integer _ => "integer"
  | double _ => "double"
  | dateTime _ => "datetime"
  | date _ => "date"
  | string _ => "string"
  | binary _ => "binary"

def integer? : Value → Option Int64
  | integer value => some value
  | _ => none

def string? : Value → Option String
  | string value => some value
  | _ => none

def binary? : Value → Option (List UInt8)
  | binary bytes => some bytes
  | _ => none

/-- The value as it is shown in messages. -/
def text : Value → String
  | null => "NULL"
  | boolean true => "true"
  | boolean false => "false"
  | integer value => Number.int64Text value
  | double value => value.text
  | dateTime value => value.text
  | date value => value.text
  | string value => value
  | binary bytes => "<" ++ Number.natText bytes.length ++ " bytes>"

def ofOption : Option Value → Value
  | none => null
  | some value => value

end Value

/-- A cell of a row as the driver returns it. -/
inductive Cell where
  | null
  | integer (value : Int64)
  | real (value : Double)
  | text (value : String)
  | blob (bytes : List UInt8)
  /-- Only from a driver that tells booleans apart from numbers. -/
  | boolean (value : Bool)
  deriving DecidableEq

def Cell.value : Cell → Value
  | null => .null
  | integer value => .integer value
  | real value => .double value
  | text value => .string value
  | blob bytes => .binary bytes
  | boolean value => .boolean value

end RecordSql
