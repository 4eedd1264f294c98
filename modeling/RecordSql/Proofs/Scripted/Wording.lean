import RecordSql.Proofs.Database.Wording
import RecordSql.Proofs.Scripted.Describing
import RecordSql.Scripted.Session

/-!
# Sessions with and without translated errors

Two sessions that differ in their translation switch alone go through the same
steps in the same way.  They send the same statements, come to the same
registries, and return the same; their failures differ in the wording of errors
that the dialect knows.
-/

namespace RecordSql

namespace Session

/-- A session with error translation switched on or off in all of its
databases. -/
def translating (session : Session) (translated : Bool) : Session :=
  { session with
    databases := session.databases.map fun entry =>
      (entry.1, entry.2.translating translated) }

/-- Outcomes with and without translation.  Only what reports the settings may
return something else. -/
def SameOutcome (dialect : Dialect) (action : Action) :
    Except Failure ActionResult → Except Failure ActionResult → Prop :=
  Outcome.Agree (Failure.Reworded dialect) fun on off =>
    action ≠ .settings → on = off

/-- A step that two sessions take in the same way.  Both have then sent the same
requests and have the same registries, and the outcomes differ in the wording of
failures, in the dialect of the database that is acted on. -/
structure Reworded (on off : Session) (step : SessionStep) : Prop where
  connection : (on.take step).2.connection = (off.take step).2.connection
  registries : (on.take step).2.registries = (off.take step).2.registries
  outcome : match on.database? step.database with
    | none => (on.take step).1 = none ∧ (off.take step).1 = none
    | some database => ∃ left right, (on.take step).1 = some left ∧
        (off.take step).1 = some right ∧
        SameOutcome database.dialect step.action left right

variable {α β : Type} {dialect : Dialect}

/-- Related outcomes, and sessions that still differ in the switch alone. -/
def Parallel (Outcomes : α → β → Prop) (on : α × Session)
    (off : β × Session) : Prop :=
  Outcomes on.1 off.1 ∧
    ∃ after : Session, on.2 = after.translating true ∧
      off.2 = after.translating false

/-- An exchange is carried out on the connection that both sessions have. -/
theorem parallel_exchange (session : Session) (database : Database)
    {on off : Exchange (Except Failure α)}
    (agree : on.Agree (.reworded database.dialect)
      (Comparison.reworded database.dialect).SameResult off) :
    Parallel (Comparison.reworded database.dialect).SameResult
      ((session.translating true).exchange (database.translating true) on)
      ((session.translating false).exchange
        (database.translating false) off) := by
  have worded : ∀ kind left right,
      (Comparison.reworded database.dialect).statements left right →
        Request.ofStatement database.dialect kind left =
          Request.ofStatement database.dialect kind right := by
    rintro kind statement _ rfl
    rfl
  obtain ⟨sameResult, sameConnection⟩ :=
    ScriptedConnection.run_agree worded agree
      (.refl (fun _ => rfl) session.connection) fun _ _ => trivial
  let withConnection (connection : ScriptedConnection) : Session :=
    { session with connection := connection }
  refine ⟨sameResult,
    withConnection (session.connection.run database.dialect on).2, rfl, ?_⟩
  exact congrArg (fun connection =>
    (withConnection connection).translating false) sameConnection.eq_of_eq.symm

/-- What is found out about a table does not depend on the databases. -/
theorem describe_translating (session : Session) (translated : Bool)
    (name table : String) :
    (session.translating translated).describe name table =
      ((session.describe name table).1,
        (session.describe name table).2.translating translated) :=
  rfl

theorem refusing_describe (session : Session) (name table : String) :
    Failure.Refusing (session.describe name table).1 :=
  (session.catalog name).refusing_describe table

/-- What does not depend on the settings comes out the same. -/
theorem parallel_same {action : Action} (outcome : Except Failure ActionResult)
    (unreported : Failure.Refusing outcome) (after : Session) :
    Parallel (SameOutcome dialect action) (outcome, after.translating true)
      (outcome, after.translating false) := by
  refine ⟨?_, after, rfl, rfl⟩
  cases outcome with
  | ok result => exact .ok fun _ => rfl
  | error failure =>
      exact .error (Failure.reworded_of_unreported (unreported failure rfl))

theorem Parallel.map {action : Action} {on off : Except Failure α × Session}
    (parallel : Parallel (Comparison.reworded dialect).SameResult on off)
    (change : α → ActionResult) :
    Parallel (SameOutcome dialect action) (on.1.map change, on.2)
      (off.1.map change, off.2) := by
  obtain ⟨same, after⟩ := parallel
  exact ⟨same.map fun _ _ equal _ => congrArg change equal, after⟩

/-- An action that needs a table first finds out about it, which
goes the same way. -/
theorem parallel_describing (session : Session) (name table : String)
    {action : Action}
    {on off : Table → Session → Except Failure ActionResult × Session}
    (parallel : ∀ (found : Table) (described : Session),
      Parallel (SameOutcome dialect action)
        (on found (described.translating true))
        (off found (described.translating false))) :
    Parallel (SameOutcome dialect action)
      (match (session.translating true).describe name table with
        | (.error failure, session) => (.error failure, session)
        | (.ok found, session) => on found session)
      (match (session.translating false).describe name table with
        | (.error failure, session) => (.error failure, session)
        | (.ok found, session) => off found session) := by
  rw [describe_translating, describe_translating]
  cases outcome : (session.describe name table).1 with
  | ok found => exact parallel found (session.describe name table).2
  | error failure =>
      have unreported := session.refusing_describe name table failure outcome
      exact parallel_same _ (Failure.refusing_error unreported)
        (session.describe name table).2

theorem parallel_act (session : Session) (name : String) (database : Database)
    (action : Action) :
    Parallel (SameOutcome database.dialect action)
      ((session.translating true).act name (database.translating true) action)
      ((session.translating false).act name
        (database.translating false) action) := by
  have databases := Comparison.reworded_databases database
  cases action with
  | nothing => exact parallel_same _ (Failure.refusing_ok _) session
  | settings => exact ⟨.ok fun other => absurd rfl other, session, rfl, rfl⟩
  | describe table =>
      have refusing :=
        (session.refusing_describe name table).map ActionResult.table
      exact parallel_same _ refusing (session.describe name table).2
  | describeThrice table =>
      have sameCatalog : ∀ translated,
          (session.translating translated).catalog name =
            session.catalog name := fun _ => rfl
      simp only [act, sameCatalog]
      obtain ⟨outcomes, catalog⟩ :=
        (session.catalog name).describeTogether 3 table
      exact parallel_same _ (Failure.refusing_ok _)
        (session.withCatalog name catalog)
  | cached table => exact parallel_same _ (Failure.refusing_ok _) session
  | nextId sequence =>
      exact (session.parallel_exchange database
        (databases.nextId (fun _ => rfl) rfl sequence)).map .id
  | query text criteria =>
      exact (session.parallel_exchange database
        (databases.query text criteria)).map .records
  | keysOf table record =>
      refine session.parallel_describing name table fun found described => ?_
      have refusing :
          Failure.Refusing (TableHandle.keysOf ⟨database, found⟩ record) :=
        TableHandle.refusing_keysOf record
      exact parallel_same _ (refusing.map ActionResult.keys) described
  | perform table operation =>
      refine session.parallel_describing name table fun found described => ?_
      exact (described.parallel_exchange database
        (databases.performTable found operation)).map .operation

theorem database?_translating (session : Session) (translated : Bool)
    (name : String) : (session.translating translated).database? name =
      (session.database? name).map fun database =>
        database.translating translated := by
  simp [database?, translating, List.find?_map, Function.comp_def,
    Option.map_map]

/-- Taking a step, with what the script prepares and the
databases told apart. -/
theorem take_translating (session : Session) (translated : Bool)
    (step : SessionStep) : (session.translating translated).take step =
      let prepared :=
        ((session.prepare step.script).forgetRequests).translating translated
      match session.database? step.database with
      | none => (none, prepared)
      | some database =>
        let (outcome, after) :=
          prepared.act step.database
            (database.translating translated) step.action
        (some outcome, after) := by
  have sameDatabases : ∀ name,
      (((session.translating translated).prepare
          step.script).forgetRequests).database? name =
        (session.translating translated).database? name := fun _ => rfl
  simp only [take, sameDatabases, database?_translating]
  cases session.database? step.database <;> rfl

/-- A step is taken in the same way, and leaves sessions that differ in
the switch alone. -/
theorem reworded_take (session : Session) (step : SessionStep) :
    (session.translating true).Reworded (session.translating false) step ∧
      ∃ after : Session,
        ((session.translating true).take step).2 = after.translating true ∧
          ((session.translating false).take step).2 =
            after.translating false := by
  let prepared := (session.prepare step.script).forgetRequests
  have taken : ∃ after : Session,
      ((session.translating true).take step).2 = after.translating true ∧
        ((session.translating false).take step).2 =
          after.translating false := by
    rw [take_translating, take_translating]
    cases session.database? step.database with
    | none => exact ⟨prepared, rfl, rfl⟩
    | some database =>
        exact (prepared.parallel_act step.database database step.action).2
  refine ⟨?_, taken⟩
  obtain ⟨after, onAfter, offAfter⟩ := taken
  constructor
  case connection => rw [onAfter, offAfter]; rfl
  case registries => rw [onAfter, offAfter]; rfl
  case outcome =>
    rw [take_translating, take_translating, database?_translating]
    cases session.database? step.database with
    | none => exact ⟨rfl, rfl⟩
    | some database =>
        exact ⟨_, _, rfl, rfl,
          (prepared.parallel_act step.database database step.action).1⟩

theorem after_translating (session : Session) (steps : List SessionStep) :
    ∃ after : Session,
      (session.translating true).after steps = after.translating true ∧
        (session.translating false).after steps = after.translating false := by
  induction steps generalizing session with
  | nil => exact ⟨session, rfl, rfl⟩
  | cons step steps induction =>
      obtain ⟨taken, onTaken, offTaken⟩ := (session.reworded_take step).2
      obtain ⟨after, onAfter, offAfter⟩ := induction taken
      refine ⟨after, ?_, ?_⟩
      · rw [← onAfter, ← onTaken]
        rfl
      · rw [← offAfter, ← offTaken]
        rfl

/-- Settings of several databases, with error translation switched
on or off in all. -/
def translatingAll (settings : List (String × Settings)) (translated : Bool) :
    List (String × Settings) :=
  settings.map fun entry => (entry.1, entry.2.translating translated)

theorem ofSettings_translating (settings : Settings) (translated : Bool) :
    Database.ofSettings (settings.translating translated) =
      (Database.ofSettings settings).map fun database =>
        database.translating translated := by
  have sameValidity : (settings.translating translated).validate =
    settings.validate := rfl
  rw [Database.ofSettings, Database.ofSettings, sameValidity]
  cases settings.validate <;> rfl

theorem openAll_translating (settings : List (String × Settings))
    (translated : Bool) :
    openAll (translatingAll settings translated) =
      (openAll settings).map fun databases =>
      databases.map fun entry => (entry.1, entry.2.translating translated) := by
  induction settings with
  | nil => rfl
  | cons entry settings induction =>
      obtain ⟨name, first⟩ := entry
      rw [translatingAll] at induction
      rw [translatingAll, List.map_cons, openAll, openAll, induction,
        ofSettings_translating]
      cases Database.ofSettings first <;> cases openAll settings <;> rfl

/-- However a session is set up, and whatever steps it has taken before, it
takes a step with translated errors as it does without. -/
theorem reworded_start (settings : List (String × Settings)) (shared : Bool)
    (connection : ScriptedConnection) (before : List SessionStep)
    (step : SessionStep) :
    Outcome.Agree Eq (fun on off =>
      (on.after before).Reworded (off.after before) step)
      (start (translatingAll settings true) shared connection)
      (start (translatingAll settings false) shared connection) := by
  unfold start
  rw [openAll_translating, openAll_translating]
  cases openAll settings with
  | error failure => exact .error rfl
  | ok databases =>
      let session : Session := ⟨databases, shared, [], connection⟩
      obtain ⟨after, onAfter, offAfter⟩ := session.after_translating before
      have reworded := (after.reworded_take step).1
      rw [← onAfter, ← offAfter] at reworded
      exact .ok reworded

end Session

end RecordSql
