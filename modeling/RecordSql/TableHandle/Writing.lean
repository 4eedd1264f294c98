import RecordSql.TableHandle.Reading

/-!
# Writing to tables

Every writing operation sends at most one statement that writes, and none when
its input is refused. An update or a delete always has a condition.
-/

namespace RecordSql.TableHandle

/-- What a best-effort insert makes of its outcome.  Where the dialect has no
verb that passes over rows, a broken constraint is a row passed over. -/
def passOver (handle : TableHandle) (outcome : Except Failure Nat) :
    Except Failure Nat :=
  match outcome with
  | .error (.constraintViolated ..) =>
    if handle.database.dialect.insertIgnoring?.isNone then .ok 0 else outcome
  | _ => outcome

/-- Inserts the columns that a record has. With `ignore` the row is to be
passed over if it breaks a constraint. -/
def insert (handle : TableHandle) (record : Record) (ignore : Bool) :
    Exchange (Except Failure Nat) :=
  (handle.database.execute <| Failure.lift <|
    handle.composer.insert handle.table handle.name
      record ignore).map fun outcome =>
      if ignore then handle.passOver outcome else outcome

/-- The key fields of a record, absent ones left out. -/
def presentKeys (handle : TableHandle) (record : Record) : Keys :=
  .ofList (((handle.table.assignments record).filter fun assignment =>
    assignment.column.primaryKey).map fun assignment =>
      (assignment.column.name, assignment.value))

/-- The assignments of a record to columns that are no key. -/
def changes (handle : TableHandle) (record : Record) : List Assignment :=
  (handle.table.assignments record).filter fun assignment =>
    !assignment.column.primaryKey

/-- The predicate of an update: that of a filter, or the key
fields of the record. -/
def updatePredicate (handle : TableHandle) (record : Record)
    (filter : Option Filter) : Except Failure Statement :=
  match filter with
  | none => handle.keyPredicate (handle.presentKeys record)
  | some filter => handle.restriction (.filter filter)

/-- Sends an update of some columns once its predicate is composed. -/
def updateWhere (handle : TableHandle) (assignments : List Assignment)
    (predicate : Except Failure Statement) : Exchange (Except Failure Nat) :=
  handle.database.execute do
    let predicate ← predicate
    Failure.lift (handle.composer.update handle.name assignments predicate)

/-- Updates the columns that a record has and that are no key, in the row of its
key or in the rows of a filter. Without such a column nothing is sent. -/
def update (handle : TableHandle) (record : Record) (filter : Option Filter) :
    Exchange (Except Failure Nat) :=
  if (handle.changes record).isEmpty then .done (.ok 0)
  else handle.updateWhere (handle.changes record)
    (handle.updatePredicate record filter)

/-- Updates the row of a record's primary key if there is one,
else inserts it. -/
def upsert (handle : TableHandle) (record : Record) :
    Exchange (Except Failure Nat) :=
  (handle.containsRecord record).andThen fun found =>
    if found then handle.update record none else handle.insert record false

def delete (handle : TableHandle) (criteria : Criteria) :
    Exchange (Except Failure Nat) :=
  handle.database.execute do
    let predicate ← handle.restriction criteria
    pure (handle.composer.delete handle.name predicate)

def updateField (handle : TableHandle) (field : String) (value : Value)
    (criteria : Criteria) : Exchange (Except Failure Nat) :=
  match handle.column field with
  | .error failure => .done (.error failure)
  | .ok column =>
      handle.updateWhere [⟨column, value⟩] (handle.restriction criteria)

/-- The parameter of a quantity, which must be a finite number. -/
def quantityParam (field : String) (quantity : Value) : Except Failure Param :=
  match quantity with
  | .integer value => .ok (.integer value)
  | .double value =>
    if value.isFinite then .ok (.double value)
    else .error (.invalidValue field "number" quantity.text)
  | _ => .error (.invalidValue field "number" quantity.text)

/-- Adds a quantity to a column of the rows that keys select, or takes it
away. -/
def adjust (handle : TableHandle) (adjustment : Adjustment) (field : String)
    (keys : Keys) (quantity : Value) : Exchange (Except Failure Nat) :=
  handle.database.execute do
    let _ ← handle.column field
    let bound ← quantityParam field quantity
    let predicate ← handle.keyPredicate keys
    pure (handle.composer.adjust handle.name field adjustment bound predicate)

end RecordSql.TableHandle
