import RecordSql.Scripted.Describing
import RecordSql.TableHandle.Operation

/-!
# Sessions

Databases that share one scripted connection, and perhaps one registry, and the
actions taken on them one after another.
-/

namespace RecordSql

inductive Action where
  | nothing
  | settings
  | describe (table : String)
  /-- Three callers ask for a table at once. -/
  | describeThrice (table : String)
  | cached (table : String)
  | nextId (sequence : String)
  | query (text : String) (criteria : Criteria)
  | keysOf (table : String) (record : Record)
  | perform (table : String) (operation : TableOperation)

inductive ActionResult where
  | nothing
  | settings (settings : Settings)
  | table (table : Table)
  | tables (outcomes : List (Except Failure Table))
  | cached (table : Option Table) (empty : Bool)
  | id (id : Option Int64)
  | records (records : List Record)
  | keys (keys : Keys)
  | operation (result : TableResult)

/-- What is prepared for an action, and the database that it is taken on. -/
structure SessionStep where
  script : List ScriptItem
  database : String
  action : Action

/-- Databases over one connection. The registries are listed by the names of the
databases that use them; a shared one is used by all. -/
structure Session where
  databases : List (String × Database)
  shared : Bool
  registries : List (String × Registry)
  connection : ScriptedConnection

namespace Session

/-- The databases with their settings, the first failure if some are not
valid. -/
def openAll :
    List (String × Settings) → Except Failure (List (String × Database))
  | [] => .ok []
  | (name, settings) :: rest => do
    let database ← Database.ofSettings settings
    let databases ← openAll rest
    pure ((name, database) :: databases)

/-- A session over new registries. -/
def start (settings : List (String × Settings)) (shared : Bool)
    (connection : ScriptedConnection) : Except Failure Session := do
  let databases ← openAll settings
  pure ⟨databases, shared, [], connection⟩

def database? (session : Session) (name : String) : Option Database :=
  (session.databases.find? fun entry => entry.1 == name).map Prod.snd

def registryName (session : Session) (name : String) : String :=
  if session.shared then "" else name

def registry (session : Session) (name : String) : Registry :=
  ((session.registries.find? fun entry =>
    entry.1 == session.registryName name).map Prod.snd).getD .empty

/-- The registry of a database with the connection. -/
def catalog (session : Session) (name : String) : Catalog :=
  ⟨session.registry name, session.connection⟩

/-- The session after the registry of a database and the
connection have changed. -/
def withCatalog (session : Session) (name : String)
    (catalog : Catalog) : Session :=
  { session with
    registries := (session.registryName name, catalog.registry) ::
      session.registries.filter fun entry =>
        !(entry.1 == session.registryName name)
    connection := catalog.connection }

def prepare (session : Session) (script : List ScriptItem) : Session :=
  { session with
    connection :=
      script.foldl ScriptedConnection.prepare session.connection }

/-- Forgets what was sent. -/
def forgetRequests (session : Session) : Session :=
  { session with connection := { session.connection with requests := [] } }

def exchange {α : Type} (session : Session) (database : Database)
    (exchange : Exchange α) : α × Session :=
  let (result, connection) := session.connection.run database.dialect exchange
  (result, { session with connection := connection })

def describe (session : Session) (name table : String) :
    Except Failure Table × Session :=
  let (outcome, catalog) := (session.catalog name).describe table
  (outcome, session.withCatalog name catalog)

def act (session : Session) (name : String) (database : Database) :
    Action → Except Failure ActionResult × Session
  | .nothing => (.ok .nothing, session)
  | .settings => (.ok (.settings database.settings), session)
  | .describe table =>
    let (outcome, session) := session.describe name table
    (outcome.map .table, session)
  | .describeThrice table =>
    let (outcomes, catalog) := (session.catalog name).describeTogether 3 table
    (.ok (.tables outcomes), session.withCatalog name catalog)
  | .cached table =>
    let registry := session.registry name
    (.ok (.cached (registry.cached? table) registry.isEmpty), session)
  | .nextId sequence =>
    let (outcome, session) :=
      session.exchange database (database.nextId sequence)
    (outcome.map .id, session)
  | .query text criteria =>
    let (outcome, session) :=
      session.exchange database (database.query text criteria)
    (outcome.map .records, session)
  | .keysOf table record =>
    match session.describe name table with
    | (.error failure, session) => (.error failure, session)
    | (.ok table, session) =>
        ((TableHandle.keysOf ⟨database, table⟩ record).map .keys, session)
  | .perform table operation =>
    match session.describe name table with
    | (.error failure, session) => (.error failure, session)
    | (.ok table, session) =>
      let (outcome, session) :=
        session.exchange database
          (TableHandle.perform ⟨database, table⟩ operation)
      (outcome.map .operation, session)

/-- Takes a step; the requests recorded afterwards are its own. There is no
outcome without a database of the name. -/
def take (session : Session) (step : SessionStep) :
    Option (Except Failure ActionResult) × Session :=
  let session := (session.prepare step.script).forgetRequests
  match session.database? step.database with
  | none => (none, session)
  | some database =>
    let (outcome, session) := session.act step.database database step.action
    (some outcome, session)

/-- The session after some steps. -/
def after (session : Session) (steps : List SessionStep) : Session :=
  steps.foldl (fun session step => (session.take step).2) session

end Session

end RecordSql
