import RecordSql.Dialect.Code
import RecordSql.Value

/-!
# Failures of database operations

An operation fails for one of three reasons: its input is refused before any
statement is sent, the columns of its table cannot be found out, or the driver
reports an error for a statement. In the last case the code that the driver
gives alone decides the kind of failure; a setting decides only its wording.
-/

namespace RecordSql

structure DriverError where
  code : Option String
  message : String
  deriving DecidableEq

/-- Why an operation fails. -/
inductive Failure where
  /-- The columns of a table cannot be found out. -/
  | metadataUnavailable (table reason : String)
  | emptyKeySet
  | emptyKeyName
  /-- A table has no primary key, or an existence test has no keys. -/
  | noKeys
  /-- A statement that writes would have no condition. -/
  | missingFilter
  | unsupportedOperand (detail : String)
  | invalidValue (column expected found : String)
  | unknownColumn (table column : String)
  | invalidSetting (detail : String)
  | queryFailed (message : String) (code : Option String) (source : DriverError)
  | constraintViolated (violation : Violation) (message code : String)
      (source : DriverError)
  deriving DecidableEq

namespace Failure

/-- The wording of a failure. -/
def message : Failure → String
  | metadataUnavailable table reason =>
    "Metadata unavailable for table '" ++ table ++ "': " ++ reason
  | emptyKeySet => "Empty key set: refusing to address an unbounded row set"
  | emptyKeyName => "Empty key name in key set"
  | noKeys => "No keys provided"
  | missingFilter =>
      "Missing filter: refusing to run an unconditional statement"
  | unsupportedOperand detail => "Unsupported filter value: " ++ detail
  | invalidValue column expected found =>
    "Invalid value for column '" ++ column ++ "': expected " ++ expected ++
      ", got " ++ found
  | unknownColumn table column =>
    "Unknown column '" ++ column ++ "' in table '" ++ table ++ "'"
  | invalidSetting detail => "Invalid configuration: " ++ detail
  | queryFailed message _ _ => "Query failed: " ++ message
  | constraintViolated violation message _ _ =>
    "Constraint violation (" ++ violation.name ++ "): " ++ message

def isReported : Failure → Bool
  | queryFailed .. | constraintViolated .. => true
  | _ => false

def code? : Failure → Option String
  | queryFailed _ code _ => code
  | constraintViolated _ _ code _ => some code
  | _ => none

def source? : Failure → Option DriverError
  | queryFailed _ _ source | constraintViolated _ _ _ source => some source
  | _ => none

def ofFault : Fault → Failure
  | .emptyKeySet => emptyKeySet
  | .emptyKeyName => emptyKeyName
  | .unsupportedOperand detail => unsupportedOperand detail
  | .invalidValue column expected found => invalidValue column expected found
  | .emptyGroup name =>
    unsupportedOperand
      ("group map references unknown or empty group '" ++ name ++ "'")
  | .invalidSetting detail =>
      invalidSetting (Fault.invalidSetting detail).message

/-- The failure that a driver error amounts to. With `translated` a known code
brings its own wording, otherwise the driver's stays. -/
def ofDriver (dialect : Dialect) (translated : Bool)
    (error : DriverError) : Failure :=
  match error.code.bind dialect.code? with
  | none => queryFailed error.message error.code error
  | some entry =>
    let message := if translated then entry.message else error.message
    match entry.violation with
    | none => queryFailed message (some entry.code) error
    | some violation => constraintViolated violation message entry.code error

/-- The outcome of composing a statement, its refusal as a failure. -/
def lift {α : Type} (outcome : Except Fault α) : Except Failure α :=
  outcome.mapError ofFault

end Failure

end RecordSql
