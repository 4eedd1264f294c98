import RecordSql.Scripted.Session

/-!
# Sessions that remember tables in a map

Sessions as they would be if tables were kept in a plain map from their names.
A name that is in the map is never asked for again; one that is not is asked for
at every mention, and entered when there are columns.
-/

namespace RecordSql

/-- The tables known by their names, each name once. -/
structure Memo where
  entries : List (String × Table)
  deriving DecidableEq

namespace Memo

def empty : Memo := ⟨[]⟩

def get? (memo : Memo) (name : String) : Option Table :=
  (memo.entries.find? fun entry => entry.1 == name).map Prod.snd

/-- Enters the table of a name that is not there yet. -/
def insert (memo : Memo) (name : String) (table : Table) : Memo :=
  ⟨memo.entries ++ [(name, table)]⟩

def isEmpty (memo : Memo) : Bool := memo.entries.isEmpty

theorem get?_insert {memo : Memo} {name : String}
    (absent : memo.get? name = none) (table : Table) (other : String) :
    (memo.insert name table).get? other = if other = name then some table
    else memo.get? other := by
  have unknown : memo.entries.find? (fun entry => entry.1 == name) = none := by
    simpa [get?] using absent
  rw [get?, insert, List.find?_append, List.find?_singleton]
  by_cases same : other = name
  · simp [same, unknown]
  · simp [get?, same, Ne.symm same]

end Memo

/-- Databases over one connection that know the same tables. -/
structure MemoSession where
  databases : List (String × Database)
  memo : Memo
  connection : ScriptedConnection

namespace MemoSession

def start (settings : List (String × Settings))
    (connection : ScriptedConnection) : Except Failure MemoSession := do
  let databases ← Session.openAll settings
  pure ⟨databases, .empty, connection⟩

/-- The table of a name.  The connection is asked for columns if and only if the
name is not in the map, and nothing is entered unless there are some. -/
def describe (session : MemoSession) (name : String) :
    Except Failure Table × MemoSession :=
  match session.memo.get? name with
  | some table => (.ok table, session)
  | none =>
    let (answer, connection) :=
      session.connection.beginColumns.answerColumns name
    match answer with
    | .error error =>
      (.error (.metadataUnavailable name error.message),
        { session with connection := connection })
    | .ok [] =>
      (.error (.metadataUnavailable name "table has no columns"),
        { session with connection := connection })
    | .ok columns =>
      let table := Table.ofDeclared name columns
      (.ok table, { session with
        memo := session.memo.insert name table
        connection := connection })

def exchange {α : Type} (session : MemoSession) (database : Database)
    (exchange : Exchange α) : α × MemoSession :=
  let (result, connection) := session.connection.run database.dialect exchange
  (result, { session with connection := connection })

/-- Three callers are served one after another. -/
def act (session : MemoSession) (database : Database) :
    Action → Except Failure ActionResult × MemoSession
  | .nothing => (.ok .nothing, session)
  | .settings => (.ok (.settings database.settings), session)
  | .describe table =>
    let (outcome, session) := session.describe table
    (outcome.map .table, session)
  | .describeThrice table =>
    let (first, session) := session.describe table
    let (second, session) := session.describe table
    let (third, session) := session.describe table
    (.ok (.tables [first, second, third]), session)
  | .cached table =>
      (.ok (.cached (session.memo.get? table) session.memo.isEmpty), session)
  | .nextId sequence =>
    let (outcome, session) :=
      session.exchange database (database.nextId sequence)
    (outcome.map .id, session)
  | .query text criteria =>
    let (outcome, session) :=
      session.exchange database (database.query text criteria)
    (outcome.map .records, session)
  | .keysOf table record =>
    match session.describe table with
    | (.error failure, session) => (.error failure, session)
    | (.ok table, session) =>
        ((TableHandle.keysOf ⟨database, table⟩ record).map .keys, session)
  | .perform table operation =>
    match session.describe table with
    | (.error failure, session) => (.error failure, session)
    | (.ok table, session) =>
      let (outcome, session) :=
        session.exchange database
          (TableHandle.perform ⟨database, table⟩ operation)
      (outcome.map .operation, session)

def database? (session : MemoSession) (name : String) : Option Database :=
  (session.databases.find? fun entry => entry.1 == name).map Prod.snd

/-- The session with a script prepared on the connection, and what was
sent forgotten. -/
def prepare (session : MemoSession) (script : List ScriptItem) : MemoSession :=
  { session with connection :=
      { script.foldl ScriptedConnection.prepare session.connection with
        requests := [] } }

def take (session : MemoSession) (step : SessionStep) :
    Option (Except Failure ActionResult) × MemoSession :=
  let session := session.prepare step.script
  match session.database? step.database with
  | none => (none, session)
  | some database =>
    let (outcome, session) := session.act database step.action
    (some outcome, session)

/-- The session after some steps. -/
def after (session : MemoSession) (steps : List SessionStep) : MemoSession :=
  steps.foldl (fun session step => (session.take step).2) session

end MemoSession

end RecordSql
