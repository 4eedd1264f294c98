/-!
# Refused input

The reasons for which keys, filters, values and settings are refused, all of
them before any statement is sent, and their wording.
-/

namespace RecordSql

/-- Why keys, a filter, a value or a setting is refused. -/
inductive Fault where
  /-- A key clause was asked for without keys. -/
  | emptyKeySet
  /-- A key has a blank name. -/
  | emptyKeyName
  /-- A condition has an operand that its operator cannot take. -/
  | unsupportedOperand (detail : String)
  /-- A value does not fit the type of its column. -/
  | invalidValue (column expected found : String)
  /-- A group map names a group without conditions. -/
  | emptyGroup (name : String)
  | invalidSetting (detail : String)
  deriving DecidableEq

namespace Fault

def message : Fault → String
  | emptyKeySet => "Empty key set: refusing to build an unbounded WHERE clause"
  | emptyKeyName => "Empty key name in key set"
  | unsupportedOperand detail => "Unsupported filter value: " ++ detail
  | invalidValue column expected found =>
    "Invalid value for column '" ++ column ++ "': expected " ++ expected ++
      ", got " ++ found
  | emptyGroup name => "Group map references empty group: " ++ name
  | invalidSetting detail => "Invalid configuration: " ++ detail

end Fault

end RecordSql
