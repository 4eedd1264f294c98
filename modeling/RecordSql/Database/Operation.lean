import RecordSql.TableHandle.Operation

/-!
# Database operations as data

All that can be asked of a database, with or without a table, and calls made one
after another.  The tables are given as they are described, so nothing is said
here about where their columns come from.
-/

namespace RecordSql

/-- An operation that may reach a database. -/
inductive DatabaseOperation where
  | table (table : Table) (operation : TableOperation)
  | query (text : String) (criteria : Criteria)
  | nextId (sequence : String)
  deriving DecidableEq

inductive DatabaseResult where
  | table (result : TableResult)
  | records (records : List Record)
  | id (id : Option Int64)
  deriving DecidableEq

def Database.perform (database : Database) :
    DatabaseOperation → Exchange (Except Failure DatabaseResult)
  | .table table operation =>
    ((⟨database, table⟩ : TableHandle).perform operation).mapOk .table
  | .query text criteria => (database.query text criteria).mapOk .records
  | .nextId sequence => (database.nextId sequence).mapOk .id

structure DatabaseCall where
  database : Database
  operation : DatabaseOperation
  deriving DecidableEq

namespace DatabaseCall

def perform (call : DatabaseCall) : Exchange (Except Failure DatabaseResult) :=
  call.database.perform call.operation

/-- Performs calls one after another, whether they succeed or fail. -/
def performAll :
    List DatabaseCall → Exchange (List (Except Failure DatabaseResult))
  | [] => .done []
  | call :: calls =>
    call.perform.bind fun result => (performAll calls).map fun results =>
      result :: results

end DatabaseCall

end RecordSql
