import RecordSql.Proofs.Outcome.Agreement
import RecordSql.Proofs.Registry.Memo

/-!
# Sessions remember tables as a map does

A session over one registry, in which callers come one after another,
cannot be told from one that keeps its tables in a map.  The two return the
same, send the same statements, and ask for columns as often; so a table is
asked for until there are columns, and what was found out then stays,
however the schema changes.
-/

namespace RecordSql

/-- The table that an action mentions so that its columns are needed. -/
def Action.table? : Action → Option String
  | .describe table | .describeThrice table | .keysOf table _ | .perform table
      _ => some table
  | .nothing | .settings | .cached _ | .nextId _ | .query _ _ => none

/-- Its calls to the registry come one after another. -/
def Action.isSequential : Action → Bool
  | .describeThrice _ => false
  | _ => true

/-- A session takes a step as one that keeps its tables in a map, and
both know the same. -/
structure Session.Recalls (session : Session) (memory : MemoSession)
    (step : SessionStep) : Prop where
  cached : ∀ database name,
    (session.registry database).cached? name = memory.memo.get? name
  isEmpty : ∀ database,
    (session.registry database).isEmpty = memory.memo.isEmpty
  outcome : (session.take step).1 = (memory.take step).1
  connection : (session.take step).2.connection =
    (memory.take step).2.connection
  /-- What is known stays known, whatever there is by now. -/
  kept : ∀ database name table,
    (session.registry database).cached? name = some table →
      ((session.take step).2.registry database).cached? name = some table
  /-- A step finds out about the table that it mentions and no other. -/
  others : ∀ database name, step.action.table? ≠ some name →
    ((session.take step).2.registry database).cached? name =
      (session.registry database).cached? name

/-- A registry that is read as a map is described from as the map is. -/
theorem Catalog.describe_represents {catalog : Catalog} {memory : MemoSession}
    (represents : catalog.registry.Represents memory.memo)
    (connection : catalog.connection = memory.connection) (name : String) :
    (catalog.describe name).1 = (memory.describe name).1 ∧
      (catalog.describe name).2.connection =
        (memory.describe name).2.connection ∧
        (catalog.describe name).2.registry.Represents
          (memory.describe name).2.memo := by
  unfold MemoSession.describe
  cases known : memory.memo.get? name with
  | some table =>
      obtain ⟨slot, named, filled⟩ :=
        Registry.filled_of_cached? ((represents.cached? name).trans known)
      rw [describe_of_filled named filled]
      exact ⟨rfl, connection, represents⟩
  | none =>
      rw [describe_of_unnamed (represents.slotOf?_eq_none known), ← connection]
      dsimp only
      cases answer : (catalog.connection.beginColumns.answerColumns name).1 with
      | error error => exact ⟨rfl, rfl, represents.concat _⟩
      | ok columns =>
          cases columns with
          | nil => exact ⟨rfl, rfl, represents.concat _⟩
          | cons first rest => exact ⟨rfl, rfl, represents.insert name _⟩

namespace MemoSession

/-- A map gains at most the table of a name that it did not have. -/
def Gains (before after : Memo) (name : Option String) : Prop :=
  after = before ∨
    ∃ entered table, name = some entered ∧ before.get? entered = none ∧
      after = before.insert entered table

theorem gains_describe (memory : MemoSession) (name : String) :
    Gains memory.memo (memory.describe name).2.memo (some name) := by
  unfold describe
  cases known : memory.memo.get? name with
  | some table => exact .inl rfl
  | none =>
      dsimp only
      split
      · exact .inl rfl
      · exact .inl rfl
      · exact .inr ⟨name, _, rfl, known, rfl⟩

theorem databases_describe (memory : MemoSession) (name : String) :
    (memory.describe name).2.databases = memory.databases := by
  unfold describe
  cases memory.memo.get? name with
  | some table => rfl
  | none =>
      dsimp only
      split <;> rfl

theorem gains_act (memory : MemoSession) (database : Database) {action : Action}
    (sequential : action.isSequential = true) :
    Gains memory.memo (memory.act database action).2.memo action.table? := by
  cases action with
  | nothing | settings | cached | nextId | query => exact .inl rfl
  | describe table => exact memory.gains_describe table
  | describeThrice table => cases sequential
  | keysOf table record =>
      have gains := memory.gains_describe table
      rw [act]
      generalize memory.describe table = described at gains ⊢
      obtain ⟨outcome, after⟩ := described
      cases outcome <;> exact gains
  | perform table operation =>
      have gains := memory.gains_describe table
      rw [act]
      generalize memory.describe table = described at gains ⊢
      obtain ⟨outcome, after⟩ := described
      cases outcome <;> exact gains

theorem gains_take (memory : MemoSession) {step : SessionStep}
    (sequential : step.action.isSequential = true) :
    Gains memory.memo (memory.take step).2.memo step.action.table? := by
  unfold take
  dsimp only
  cases (memory.prepare step.script).database? step.database with
  | none => exact .inl rfl
  | some database =>
      exact (memory.prepare step.script).gains_act database sequential

theorem Gains.kept {before after : Memo} {mentioned : Option String}
    (gains : Gains before after mentioned) {name : String} {table : Table}
    (known : before.get? name = some table) : after.get? name = some table := by
  rcases gains with rfl | ⟨entered, _, _, absent, rfl⟩
  · exact known
  · rw [Memo.get?_insert absent]
    split
    · next same =>
      rw [same, absent] at known
      cases known
    · exact known

theorem Gains.others {before after : Memo} {mentioned : Option String}
    (gains : Gains before after mentioned) {name : String}
    (different : mentioned ≠ some name) :
    after.get? name = before.get? name := by
  rcases gains with rfl | ⟨entered, _, rfl, absent, rfl⟩
  · rfl
  · rw [Memo.get?_insert absent, if_neg]
    rintro rfl
    exact different rfl

end MemoSession

namespace Session

/-- The registry of every database is read as the map. -/
structure Mirrors (session : Session) (memory : MemoSession) : Prop where
  shared : session.shared = true
  databases : session.databases = memory.databases
  connection : session.connection = memory.connection
  registry : ∀ database, (session.registry database).Represents memory.memo

/-- The same comes out, and what is left mirrors what is left. -/
def Alike {α : Type} (first : α × Session) (second : α × MemoSession) : Prop :=
  first.1 = second.1 ∧ first.2.Mirrors second.2

variable {α β : Type} {session : Session} {memory : MemoSession}

theorem Alike.map {first : Except Failure α × Session}
    {second : Except Failure α × MemoSession} (alike : Alike first second)
    (change : α → β) :
    Alike (first.1.map change, first.2) (second.1.map change, second.2) :=
  ⟨congrArg (Except.map change) alike.1, alike.2⟩

theorem registry_withCatalog (shared : session.shared = true)
    (name other : String) (catalog : Catalog) :
    (session.withCatalog name catalog).registry other = catalog.registry := by
  simp [registry, withCatalog, registryName, shared]

theorem Mirrors.describe (mirrors : session.Mirrors memory)
    (name table : String) :
    Alike (session.describe name table) (memory.describe table) := by
  have read : (session.catalog name).registry.Represents memory.memo :=
    mirrors.registry name
  obtain ⟨outcome, connection, represents⟩ :=
    Catalog.describe_represents read mirrors.connection table
  refine ⟨outcome, mirrors.shared, ?_, connection, fun database => ?_⟩
  · rw [MemoSession.databases_describe]
    exact mirrors.databases
  · change ((session.withCatalog name _).registry database).Represents _
    rw [registry_withCatalog mirrors.shared]
    exact represents

/-- What needs a table finds out about it first. -/
theorem Mirrors.describing (mirrors : session.Mirrors memory)
    (name table : String) {first : Table → Session → Except Failure α × Session}
    {second : Table → MemoSession → Except Failure α × MemoSession}
    (continued : ∀ (found : Table) (session : Session) (memory : MemoSession),
      session.Mirrors memory →
        Alike (first found session) (second found memory)) :
    Alike (match session.describe name table with
        | (.error failure, session) => (.error failure, session)
        | (.ok found, session) => first found session)
      (match memory.describe table with
        | (.error failure, memory) => (.error failure, memory)
        | (.ok found, memory) => second found memory) := by
  obtain ⟨outcome, after⟩ := mirrors.describe name table
  revert outcome after
  obtain ⟨outcome, described⟩ := session.describe name table
  obtain ⟨_, remembered⟩ := memory.describe table
  rintro rfl after
  cases outcome with
  | error failure => exact ⟨rfl, after⟩
  | ok found => exact continued found described remembered after

theorem Mirrors.exchange (mirrors : session.Mirrors memory)
    (database : Database) (exchange : Exchange α) :
    Alike (session.exchange database exchange)
      (memory.exchange database exchange) := by
  unfold Session.exchange MemoSession.exchange
  rw [mirrors.connection]
  exact ⟨rfl, mirrors.shared, mirrors.databases, rfl, mirrors.registry⟩

theorem Mirrors.act (mirrors : session.Mirrors memory) (name : String)
    (database : Database) {action : Action}
    (sequential : action.isSequential = true) :
    Alike (session.act name database action) (memory.act database action) := by
  cases action with
  | nothing | settings => exact ⟨rfl, mirrors⟩
  | describe table => exact (mirrors.describe name table).map ActionResult.table
  | describeThrice table => cases sequential
  | cached table =>
      refine ⟨?_, mirrors⟩
      have represents := mirrors.registry name
      simp only [Session.act, MemoSession.act, represents.cached?,
        represents.isEmpty]
  | nextId sequence =>
      exact (mirrors.exchange database (database.nextId sequence)).map
        ActionResult.id
  | query text criteria =>
      exact (mirrors.exchange database (database.query text criteria)).map
        ActionResult.records
  | keysOf table record =>
      exact mirrors.describing name table fun found session memory after =>
        ⟨rfl, after⟩
  | perform table operation =>
      refine mirrors.describing name table fun found session memory after => ?_
      exact (after.exchange database
        (TableHandle.perform ⟨database, found⟩ operation)).map
        ActionResult.operation

theorem Mirrors.take (mirrors : session.Mirrors memory) {step : SessionStep}
    (sequential : step.action.isSequential = true) :
    Alike (session.take step) (memory.take step) := by
  have prepared :
      ((session.prepare step.script).forgetRequests).Mirrors
        (memory.prepare step.script) := by
    refine ⟨mirrors.shared, mirrors.databases, ?_, mirrors.registry⟩
    rw [MemoSession.prepare, ← mirrors.connection]
    rfl
  have sameDatabase :
      ((session.prepare step.script).forgetRequests).database? step.database =
        (memory.prepare step.script).database? step.database := by
    rw [database?, prepared.databases]
    rfl
  unfold Session.take MemoSession.take
  dsimp only
  rw [sameDatabase]
  cases (memory.prepare step.script).database? step.database with
  | none => exact ⟨rfl, prepared⟩
  | some database =>
      obtain ⟨outcome, after⟩ := prepared.act step.database database sequential
      exact ⟨congrArg some outcome, after⟩

theorem Mirrors.after (mirrors : session.Mirrors memory)
    {steps : List SessionStep}
    (sequential : ∀ step ∈ steps, step.action.isSequential = true) :
    (session.after steps).Mirrors (memory.after steps) := by
  induction steps generalizing session memory with
  | nil => exact mirrors
  | cons step steps induction =>
      rw [List.forall_mem_cons] at sequential
      exact induction (mirrors.take sequential.1).2 sequential.2

theorem Mirrors.recalls (mirrors : session.Mirrors memory) {step : SessionStep}
    (sequential : step.action.isSequential = true) :
    session.Recalls memory step := by
  obtain ⟨outcome, after⟩ := mirrors.take sequential
  have gains := memory.gains_take sequential
  refine ⟨fun database => (mirrors.registry database).cached?,
    fun database => (mirrors.registry database).isEmpty, outcome,
      after.connection, ?_, ?_⟩
  · intro database name table known
    rw [(mirrors.registry database).cached?] at known
    rw [(after.registry database).cached?]
    exact gains.kept known
  · intro database name different
    rw [(after.registry database).cached?, (mirrors.registry database).cached?]
    exact gains.others different

/-- Whatever databases share a registry and whatever is prepared on the
connection, steps taken one after another go as if tables were kept in a map
that is empty at first. -/
theorem recalls_start (settings : List (String × Settings))
    (connection : ScriptedConnection) {before : List SessionStep}
    {step : SessionStep}
    (sequential :
      ∀ taken ∈ before ++ [step], taken.action.isSequential = true) :
    Outcome.Agree Eq (fun session memory =>
      (session.after before).Recalls (memory.after before) step)
      (start settings true connection)
      (MemoSession.start settings connection) := by
  rw [List.forall_mem_append] at sequential
  obtain ⟨earlier, last⟩ := sequential
  unfold start MemoSession.start
  cases openAll settings with
  | error failure => exact .error rfl
  | ok databases =>
      have mirrors : (Session.mk databases true [] connection).Mirrors
          ⟨databases, .empty, connection⟩ :=
        ⟨rfl, rfl, rfl, fun _ => Registry.represents_empty⟩
      exact .ok ((mirrors.after earlier).recalls (last step List.mem_cons_self))

/-- Two databases of different dialects want the columns of one table.  The
first is told that the server has gone away, the second gets them, and the first
gets the same later on, although the table has changed. -/
theorem recalls_start_schemaChange :
    let settings : List (String × Settings) :=
      [("orders", { engine := .mysql }), ("audit", { engine := .sqlserver })]
    let connection :=
      ScriptedConnection.ofTables
        [("users", [⟨"id", "int", false, true, none⟩])]
    let before : List SessionStep :=
      [⟨[.columnError ⟨some "2006", "gone away"⟩], "orders", .describe "users"⟩,
        ⟨[], "audit", .describe "users"⟩]
    let step : SessionStep :=
      ⟨[.table "users" [⟨"id", "bigint", false, true, none⟩]], "orders",
        .describe "users"⟩
    ((start settings true connection).map fun session =>
        ((session.after before).take step).2.connection.introspections) =
          .ok 2 ∧
      (∀ taken ∈ before ++ [step], taken.action.isSequential = true) ∧
        Outcome.Agree Eq (fun session memory =>
          (session.after before).Recalls (memory.after before) step)
          (start settings true connection)
          (MemoSession.start settings connection) := by
  intro settings connection before step
  have sequential : ∀ taken ∈ before ++ [step],
      taken.action.isSequential = true := by decide
  exact ⟨by
    decide +kernel, sequential, recalls_start settings connection sequential⟩

end Session

end RecordSql
