import RecordSql.Registry.Describing
import RecordSql.Scripted.Connection

/-!
# Describing tables over a scripted connection

Callers that take turns: in every round each caller, in order, moves as far as
it can. A caller that has begun to ask for columns rests until the next round,
when the connection answers.
-/

namespace RecordSql

/-- A registry and the connection behind it. -/
structure Catalog where
  registry : Registry
  connection : ScriptedConnection
  deriving DecidableEq

namespace Catalog

/-- Lets a caller make at most so many moves, none after it has begun to ask. -/
def poll : Nat → Catalog → Caller → Caller × Catalog
  | 0, catalog, caller => (caller, catalog)
  | moves + 1, catalog, caller =>
    let (answer, connection) :=
      if caller.isAsking then catalog.connection.answerColumns caller.table
      else (.ok [], catalog.connection)
    match caller.advance? answer catalog.registry with
    | none => (caller, catalog)
    | some (caller, registry) =>
      if caller.isAsking then (caller, ⟨registry, connection.beginColumns⟩)
      else poll moves ⟨registry, connection⟩ caller

/-- The greatest number of moves that a caller makes from its arrival. -/
def greatestMoves : Nat := 5

/-- One round of some callers. -/
def round (catalog : Catalog) : List Caller → List Caller × Catalog
  | [] => ([], catalog)
  | caller :: callers =>
    let (caller, catalog) := poll greatestMoves catalog caller
    let (callers, catalog) := round catalog callers
    (caller :: callers, catalog)

def rounds : Nat → Catalog → List Caller → List Caller × Catalog
  | 0, catalog, callers => (callers, catalog)
  | count + 1, catalog, callers =>
    let (callers, catalog) := catalog.round callers
    rounds count catalog callers

/-- Some callers that ask for the same table at the same time, and their
outcomes. Every round after the first ends the asking of one caller. -/
def describeTogether (catalog : Catalog) (count : Nat) (table : String) :
    List (Except Failure Table) × Catalog :=
  let (callers, catalog) :=
    rounds (count + 1) catalog (List.replicate count (.arriving table))
  (callers.filterMap Caller.outcome?, catalog)

/-- The columns of a table, from the registry or, for the first time, from the
connection. -/
def describe (catalog : Catalog) (table : String) :
    Except Failure Table × Catalog :=
  let (outcomes, catalog) := catalog.describeTogether 1 table
  (outcomes.headD (.error (.metadataUnavailable table "")), catalog)

end Catalog

end RecordSql
