import RecordSql.Database

/-!
# Tables of a database

A table together with the database that it belongs to, and what can be said
about records and columns from the table alone.
-/

namespace RecordSql

structure TableHandle where
  database : Database
  table : Table
  deriving DecidableEq

namespace TableHandle

def name (handle : TableHandle) : String := handle.table.name

def composer (handle : TableHandle) : Composer := handle.database.composer

/-- The column of a name, which must be there. -/
def column (handle : TableHandle) (field : String) : Except Failure Column :=
  match handle.table.column? field with
  | some column => .ok column
  | none => .error (.unknownColumn handle.name field)

/-- The primary key of a record. A key field that is absent counts as null. -/
def keysOf (handle : TableHandle) (record : Record) : Except Failure Keys :=
  let keys := Keys.ofList (handle.table.primaryKeys.map fun column =>
    (column.name, .ofOption (record.get? column.name)))
  if keys.isEmpty then .error .noKeys else .ok keys

def keyPredicate (handle : TableHandle) (keys : Keys) :
    Except Failure Statement :=
  Failure.lift (handle.composer.keys (some handle.table) keys)

/-- The predicate of criteria, which must restrict. -/
def restriction (handle : TableHandle) (criteria : Criteria) :
    Except Failure Statement := do
  let predicate ←
    Failure.lift (handle.composer.predicate (some handle.table) criteria)
  if predicate.isEmpty then .error .missingFilter else .ok predicate

end TableHandle

end RecordSql
