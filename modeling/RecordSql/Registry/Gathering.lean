import RecordSql.Registry.Describing

/-!
# Callers at the same time

Any number of callers over one registry.  A run is a list of turns, each of
which names the caller that may move and says how the database would answer it
at that moment.  Callers that are late to arrive have their first turn late.
-/

namespace RecordSql

/-- A registry and the callers on their way to it. -/
structure Gathering where
  registry : Registry
  callers : List Caller

/-- The turn of a caller, known by its number. -/
structure Turn where
  caller : Nat
  answer : ColumnsAnswer

/-- A question to the database that has been answered. -/
structure Introspection where
  caller : Nat
  table : String
  slot : Nat
  outcome : Except String Table
  /-- Whether the slot still had its name when the answer came. -/
  named : Bool

/-- Whether the answer gave the columns of a table. -/
def Introspection.Found (introspection : Introspection) (name : String)
    (found : Table) : Prop :=
  introspection.table = name ∧ introspection.outcome = .ok found

def Introspection.successes (name : String)
    (introspections : List Introspection) : Nat :=
  introspections.countP fun introspection =>
    introspection.table == name && introspection.outcome.isOk

/-- The slot that a caller holds at a stage. -/
def Stage.slot? : Stage → Option Nat
  | waiting slot | asking slot | failed slot _ => some slot
  | arriving | done _ => none

namespace Gathering

/-- Callers of some tables, none of which has moved yet, and an
empty registry. -/
def arriving (tables : List String) : Gathering :=
  ⟨.empty, tables.map .arriving⟩

/-- A caller that is done or has to wait, or is not there, passes its turn. -/
def after (gathering : Gathering) (turn : Turn) : Gathering :=
  match gathering.callers[turn.caller]? with
  | none => gathering
  | some caller =>
    match caller.advance? turn.answer gathering.registry with
    | none => gathering
    | some (moved, registry) =>
        ⟨registry, gathering.callers.set turn.caller moved⟩

def run (gathering : Gathering) (turns : List Turn) : Gathering :=
  turns.foldl after gathering

/-- The question that ends with a turn. -/
def introspection? (gathering : Gathering) (turn : Turn) :
    Option Introspection :=
  gathering.callers[turn.caller]?.bind fun caller =>
    match caller.stage with
    | .asking slot =>
      some ⟨turn.caller, caller.table, slot,
        Caller.tableOf caller.table turn.answer,
        gathering.registry.slotOf? caller.table = some slot⟩
    | _ => none

/-- The questions that end in a run, in their order. -/
def introspections (gathering : Gathering) : List Turn → List Introspection
  | [] => []
  | turn :: turns =>
    (gathering.introspection? turn).toList ++
      (gathering.after turn).introspections turns

/-- A caller has come back with a table. -/
def Returned (gathering : Gathering) (name : String) (found : Table) : Prop :=
  ⟨name, .done (.ok found)⟩ ∈ gathering.callers

end Gathering

end RecordSql
