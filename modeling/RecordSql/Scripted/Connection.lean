import RecordSql.Column
import RecordSql.Exchange

/-!
# Scripted connections

A database that answers from queues prepared beforehand and records what it is
sent. A prepared error answers the next statement of either kind; without one a
statement that writes touches as many rows as prepared, one by default, and a
query returns the rows prepared, none by default.
-/

namespace RecordSql

inductive RequestKind where
  | execute
  | fetch
  deriving DecidableEq

/-- A statement as it reaches the database: its text with placeholders, its
parameters, and its text with the parameters written in. -/
structure Request where
  kind : RequestKind
  sql : String
  params : List Param
  literal : String
  deriving DecidableEq

/-- A statement in the words of a dialect. -/
def Request.ofStatement (dialect : Dialect) (kind : RequestKind)
    (statement : Statement) : Request :=
  ⟨kind, statement.executable dialect, statement.params,
    statement.literal dialect⟩

/-- A database that answers from queues. -/
structure ScriptedConnection where
  tables : List (String × List DeclaredColumn)
  affected : List Nat
  rows : List (List Row)
  errors : List DriverError
  /-- Errors that answer when columns are asked for. -/
  columnErrors : List DriverError
  introspections : Nat
  /-- What was sent, the oldest first. -/
  requests : List Request
  deriving DecidableEq

inductive ScriptItem where
  | rows (rows : List Row)
  | affected (count : Nat)
  | error (error : DriverError)
  | columnError (error : DriverError)
  /-- A table comes to be, in place of one of the same name. -/
  | table (name : String) (columns : List DeclaredColumn)
  deriving DecidableEq

namespace ScriptedConnection

/-- A database with some tables and nothing prepared. -/
def ofTables (tables : List (String × List DeclaredColumn)) :
    ScriptedConnection :=
  ⟨tables, [], [], [], [], 0, []⟩

def prepare (connection : ScriptedConnection) : ScriptItem → ScriptedConnection
  | .rows rows => { connection with rows := connection.rows ++ [rows] }
  | .affected count =>
      { connection with affected := connection.affected ++ [count] }
  | .error error => { connection with errors := connection.errors ++ [error] }
  | .columnError error =>
    { connection with columnErrors := connection.columnErrors ++ [error] }
  | .table name columns =>
    { connection with
      tables := (name, columns) :: connection.tables.filter fun entry =>
        !(entry.1 == name) }

/-- The columns of a table, none for a table that there is not. -/
def columnsOf (connection : ScriptedConnection) (name : String) :
    List DeclaredColumn :=
  ((connection.tables.find? fun entry => entry.1 == name).map Prod.snd).getD []

def record (connection : ScriptedConnection) (request : Request) :
    ScriptedConnection :=
  { connection with requests := connection.requests ++ [request] }

def answerWrite (connection : ScriptedConnection) :
    WriteAnswer × ScriptedConnection :=
  match connection.errors with
  | error :: errors => (.error error, { connection with errors := errors })
  | [] =>
      (.ok (connection.affected.headD 1),
        { connection with affected := connection.affected.tail })

def answerRead (connection : ScriptedConnection) :
    ReadAnswer × ScriptedConnection :=
  match connection.errors with
  | error :: errors => (.error error, { connection with errors := errors })
  | [] =>
      (.ok (connection.rows.headD []),
        { connection with rows := connection.rows.tail })

/-- Carries out an exchange in the words of a dialect. -/
def run {α : Type} (dialect : Dialect) :
    Exchange α → ScriptedConnection → α × ScriptedConnection
  | .done result, connection => (result, connection)
  | .execute statement next, connection =>
    let (answer, connection) :=
      (connection.record (.ofStatement dialect .execute statement)).answerWrite
    run dialect (next answer) connection
  | .fetch statement next, connection =>
    let (answer, connection) :=
      (connection.record (.ofStatement dialect .fetch statement)).answerRead
    run dialect (next answer) connection

def beginColumns (connection : ScriptedConnection) : ScriptedConnection :=
  { connection with introspections := connection.introspections + 1 }

def answerColumns (connection : ScriptedConnection) (table : String) :
    Except DriverError (List DeclaredColumn) × ScriptedConnection :=
  match connection.columnErrors with
  | error :: errors =>
      (.error error, { connection with columnErrors := errors })
  | [] => (.ok (connection.columnsOf table), connection)

end ScriptedConnection

end RecordSql
