import RecordSql.Failure
import RecordSql.Statement

/-!
# Exchanges with a database

An operation as the statements that it sends, one after another, each of which
may depend on the answers to those before it. Nothing is said here about the
database that answers, so what holds of an exchange holds with every database.
-/

namespace RecordSql

/-- A cell of a row with the name and the declared type of its column. -/
structure RowCell where
  name : String
  type : String
  cell : Cell
  deriving DecidableEq

abbrev Row := List RowCell

/-- The answer to a statement that writes: the number of rows it touched. -/
abbrev WriteAnswer := Except DriverError Nat

abbrev ReadAnswer := Except DriverError (List Row)

/-- Statements to be sent one after another, with a result at the end. -/
inductive Exchange (α : Type) where
  | done (result : α)
  /-- Sends a statement that writes. -/
  | execute (statement : Statement) (next : WriteAnswer → Exchange α)
  | fetch (statement : Statement) (next : ReadAnswer → Exchange α)

namespace Exchange

variable {α β : Type}

def bind (exchange : Exchange α) (next : α → Exchange β) : Exchange β :=
  match exchange with
  | .done result => next result
  | .execute statement rest => .execute statement fun answer =>
      (rest answer).bind next
  | .fetch statement rest => .fetch statement fun answer =>
      (rest answer).bind next

def map (change : α → β) (exchange : Exchange α) : Exchange β :=
  exchange.bind fun result => .done (change result)

/-- Goes on after success, and ends with a failure. -/
def andThen (exchange : Exchange (Except Failure α))
    (next : α → Exchange (Except Failure β)) : Exchange (Except Failure β) :=
  exchange.bind fun
    | .ok result => next result
    | .error failure => .done (.error failure)

def mapOk (change : α → β) (exchange : Exchange (Except Failure α)) :
    Exchange (Except Failure β) :=
  exchange.map fun outcome => outcome.map change

end Exchange

end RecordSql
