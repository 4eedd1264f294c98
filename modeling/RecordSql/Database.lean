import RecordSql.Decoding
import RecordSql.Exchange
import RecordSql.Mutation
import RecordSql.Query
import RecordSql.Settings

/-!
# Databases

A database as its valid settings describe it: how it composes statements, how it
reads rows and how it reports errors. Statements written by the caller and the
next id of a sequence are asked for here, all else through a table.
-/

namespace RecordSql

/-- A database that is reached with certain settings. -/
structure Database where
  settings : Settings
  deriving DecidableEq

/-- The whole number that a value stands for as the only result of a query. -/
def Value.scalarInteger? : Value → Option Int64
  | integer value => some value
  | double value => value.truncate?.map Number.clampInt64
  | string value => Number.int64? (Text.trimChars value.toList)
  | _ => none

namespace Database

def ofSettings (settings : Settings) : Except Failure Database :=
  match settings.validate with
  | .ok () => .ok ⟨settings⟩
  | .error fault => .error (.ofFault fault)

def dialect (database : Database) : Dialect := database.settings.dialect

def formats (database : Database) : Formats := database.settings.formats

def composer (database : Database) : Composer :=
  ⟨database.dialect, database.formats⟩

/-- The failure that a driver error amounts to. -/
def failure (database : Database) (error : DriverError) : Failure :=
  .ofDriver database.dialect database.settings.translateErrors error

/-- The record of a row; of two cells of one name the later counts. -/
def record (database : Database) (row : Row) : Record :=
  .ofList (row.map fun cell =>
    (cell.name, database.formats.decode cell.cell cell.type))

/-- Sends a statement that writes, unless it could not be composed. -/
def execute (database : Database) (statement : Except Failure Statement) :
    Exchange (Except Failure Nat) :=
  match statement with
  | .error failure => .done (.error failure)
  | .ok statement =>
    .execute statement fun answer => .done (answer.mapError database.failure)

/-- Sends a query, unless it could not be composed, and reads the rows. -/
def fetch (database : Database) (statement : Except Failure Statement) :
    Exchange (Except Failure (List Record)) :=
  match statement with
  | .error failure => .done (.error failure)
  | .ok statement =>
    .fetch statement fun answer =>
      .done ((answer.mapError database.failure).map fun rows =>
        rows.map database.record)

/-- The next id of a sequence; none where inserts assign ids. -/
def nextId (database : Database) (sequence : String) :
    Exchange (Except Failure (Option Int64)) :=
  match database.dialect.nextId? sequence with
  | none => .done (.ok none)
  | some statement =>
    (database.fetch (.ok statement)).mapOk fun records =>
      (records.head?.bind fun record => record.fields.head?).bind fun field =>
        field.2.scalarInteger?

/-- The records of a query written by the caller, restricted by criteria. -/
def query (database : Database) (text : String) (criteria : Criteria) :
    Exchange (Except Failure (List Record)) :=
  database.fetch
    (Failure.lift (database.composer.extendQuery none text criteria))

end Database

end RecordSql
