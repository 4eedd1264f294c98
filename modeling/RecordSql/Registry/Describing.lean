import RecordSql.Failure
import RecordSql.Registry

/-!
# Describing tables

Callers that ask for the columns of a table, each as a sequence of indivisible
moves on a shared registry. Any number of them may be on their way at once and
their moves may come in any order; only the turn to ask the database is held by
one caller at a time for each slot.
-/

namespace RecordSql

/-- How the database answers when it is asked for the columns of a table. -/
abbrev ColumnsAnswer := Except DriverError (List DeclaredColumn)

/-- Where a caller stands. -/
inductive Stage where
  | arriving
  /-- It holds a slot and wants what is in it. -/
  | waiting (slot : Nat)
  /-- It has the turn and is asking the database. -/
  | asking (slot : Nat)
  /-- It has given back the turn after a failure. -/
  | failed (slot : Nat) (reason : String)
  | done (outcome : Except Failure Table)

structure Caller where
  table : String
  stage : Stage

namespace Caller

def arriving (table : String) : Caller := ⟨table, .arriving⟩

def isAsking (caller : Caller) : Bool :=
  match caller.stage with
  | .asking _ => true
  | _ => false

def outcome? (caller : Caller) : Option (Except Failure Table) :=
  match caller.stage with
  | .done outcome => some outcome
  | _ => none

/-- The table of an answer, or why there is none. -/
def tableOf (table : String) : ColumnsAnswer → Except String Table
  | .error error => .error error.message
  | .ok [] => .error "table has no columns"
  | .ok columns => .ok (.ofDeclared table columns)

/-- The next move of a caller, none when it is done or has to wait. The answer
is looked at only by a caller that is asking. -/
def advance? (caller : Caller) (answer : ColumnsAnswer) (registry : Registry) :
    Option (Caller × Registry) :=
  match caller.stage with
  | .arriving =>
    let (slot, registry) := registry.claim caller.table
    some ({ caller with stage := .waiting slot }, registry)
  | .waiting slot =>
    match registry.content slot with
    | .filled table =>
        some ({ caller with stage := .done (.ok table) }, registry)
    | .vacant =>
        some ({ caller with stage := .asking slot }, registry.put slot .busy)
    | .busy => none
  | .asking slot =>
    match tableOf caller.table answer with
    | .ok table =>
      some ({ caller with stage := .done (.ok table) },
        registry.put slot (.filled table))
    | .error reason =>
      some ({ caller with stage := .failed slot reason },
        registry.put slot .vacant)
  | .failed slot reason =>
    some
      ({ caller with
          stage := .done (.error (.metadataUnavailable caller.table reason)) },
        registry.evict caller.table slot)
  | .done _ => none

end Caller

end RecordSql
