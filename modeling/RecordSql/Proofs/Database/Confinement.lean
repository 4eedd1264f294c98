import RecordSql.Proofs.Database.Agreement
import RecordSql.Proofs.Predicate.Confinement
import RecordSql.Proofs.TableHandle.Upsert

/-!
# What dialects have a say in

Databases of different dialects with the same formats take the same course
through every operation: as long as the driver reports no error, they return or
refuse the same, and they send the same parameters with statements of the same
kinds.  Only the texts differ.
-/

namespace RecordSql

namespace Composer

open Statement

variable {first second : Composer} {left right : Statement}

theorem sameParams_whereClause (same : left.SameParams right) :
    left.whereClause.SameParams right.whereClause := by
  simpa [Statement.SameParams] using same

variable (formats : first.formats = second.formats)

include formats

theorem assignmentParam_eq (assignment : Assignment) :
    first.assignmentParam assignment = second.assignmentParam assignment := by
  rw [assignmentParam, assignmentParam, formats]

theorem sameParams_select (metadata : Option Table) (table : String)
    (fields : List String) (criteria : Criteria) (page : Option Page) :
    SameParams (first.select metadata table fields criteria page)
      (second.select metadata table fields criteria page) := by
  apply (sameParams_predicate formats metadata criteria).bind
  intro predicate other same
  exact .ok
    ((((sameParams_ofSql _ _).append (sameParams_whereClause same)).sql _ _).sql
      _ _)

theorem sameParams_extendQuery (metadata : Option Table) (query : String)
    (criteria : Criteria) :
    SameParams (first.extendQuery metadata query criteria)
      (second.extendQuery metadata query criteria) := by
  apply (sameParams_predicate formats metadata criteria).bind
  intro predicate other same
  exact .ok
    ((((sameParams_ofSql _ _).append (sameParams_whereClause same)).sql _ _).sql
      _ _)

theorem sameParams_count (metadata : Option Table) (table : String)
    (criteria : Criteria) :
    SameParams (first.count metadata table criteria)
      (second.count metadata table criteria) := by
  apply (sameParams_predicate formats metadata criteria).bind
  intro predicate other same
  exact .ok ((sameParams_ofSql _ _).append (sameParams_whereClause same))

/-- A row without columns is inserted in other words by each dialect, but
without parameters by all of them. -/
theorem sameParams_insert (metadata : Table) (table : String) (record : Record)
    (ignore : Bool) :
    SameParams (first.insert metadata table record ignore)
      (second.insert metadata table record ignore) := by
  have sameSteps : first.assignmentParam = second.assignmentParam :=
    funext (assignmentParam_eq formats)
  unfold Composer.insert
  rw [sameSteps]
  apply (Outcome.Agree.same _).bind
  rintro params _ rfl
  dsimp only
  split
  · exact .ok ((sameParams_ofSql _ _).sql _ _)
  · exact .ok ((((sameParams_ofSql _ _).sql _ _).append rfl).sql _ _)

theorem sameParams_assignment (assignment : Assignment) :
    SameParams (first.assignment assignment)
      (second.assignment assignment) := by
  unfold Composer.assignment
  rw [assignmentParam_eq formats]
  apply (Outcome.Agree.same _).bind
  rintro bound _ rfl
  exact .ok ((sameParams_ofSql _ _).param bound)

theorem sameParams_update (table : String) (assignments : List Assignment)
    (same : left.SameParams right) :
    SameParams (first.update table assignments left)
      (second.update table assignments right) := by
  apply (Outcome.Agree.mapM (sameParams_assignment formats) assignments).bind
  intro sets others sameSets
  exact .ok
    (((sameParams_ofSql _ _).append (sameParams_join ", " sameSets)).append
      (sameParams_whereClause same))

omit formats in
theorem sameParams_adjust (table field : String) (adjustment : Adjustment)
    (quantity : Param) (same : left.SameParams right) :
    (first.adjust table field adjustment quantity left).SameParams
      (second.adjust table field adjustment quantity right) :=
  ((sameParams_ofSql _ _).param quantity).append (sameParams_whereClause same)

omit formats in
theorem sameParams_delete (table : String) (same : left.SameParams right) :
    (first.delete table left).SameParams (second.delete table right) :=
  (sameParams_ofSql _ _).append (sameParams_whereClause same)

end Composer

namespace Comparison

/-- Statements may differ in their texts alone, and the driver
reports no error. -/
def confined : Comparison where
  statements := Statement.SameParams
  errors _ := False
  failures left right := left = right ∧ left.isReported = false

variable {first second : Composer}

theorem confined_composers (formats : first.formats = second.formats) :
    confined.Composers first second where
  predicate metadata criteria :=
    (Composer.sameParams_predicate formats
        metadata criteria).imp fun _ _ left right same =>
      ⟨same, (Composer.isEmpty_of_predicate left).trans
        (Composer.isEmpty_of_predicate right).symm⟩
  select := Composer.sameParams_select formats
  extendQuery := Composer.sameParams_extendQuery formats
  count := Composer.sameParams_count formats
  insert := Composer.sameParams_insert formats
  update table assignments _ _ same _ :=
    Composer.sameParams_update formats table assignments same
  adjust table field adjustment quantity _ _ same _ :=
    Composer.sameParams_adjust table field adjustment quantity same
  delete table _ _ same _ := Composer.sameParams_delete table same

theorem confined_databases {first second : Database}
    (formats : first.formats = second.formats) :
    confined.Databases first second where
  composers := confined_composers formats
  formats := formats
  refused failure unreported := ⟨rfl, unreported⟩
  reported error impossible := impossible.elim
  passedOver table := by
    rintro failure _ ⟨rfl, unreported⟩
    cases failure <;> first
      | exact .error ⟨rfl, unreported⟩
      | cases unreported

theorem eq_of_confined {α : Type} {outcome other : Except Failure α}
    (same : confined.SameResult outcome other) :
    outcome = other ∧ Failure.Refusing outcome := by
  cases same with
  | ok equal => exact ⟨congrArg Except.ok equal, Failure.refusing_ok _⟩
  | error related =>
      exact ⟨congrArg Except.error related.1, Failure.refusing_error related.2⟩

end Comparison

/-- Requests of one kind with the same parameters, whatever their texts. -/
structure Request.SameParams (left right : Request) : Prop where
  kind : left.kind = right.kind
  params : left.params = right.params

namespace Database

/-- Two databases with the same formats, of any dialects, return the same from
every operation but a sequence, or refuse its input for the same reason.  They
have then sent the same parameters with the same kinds of statements, and used
up the same answers. -/
theorem sameCourse_perform {first second : Database}
    (formats : first.formats = second.formats) {operation : DatabaseOperation}
    (noSequence : ∀ sequence, operation ≠ .nextId sequence)
    {connection : ScriptedConnection} (noErrors : connection.errors = []) :
    let left := connection.run first.dialect (first.perform operation)
    let right := connection.run second.dialect (second.perform operation)
    left.1 = right.1 ∧ Failure.Refusing left.1 ∧
        left.2.Agree Request.SameParams right.2 := by
  intro left right
  have agree := (Comparison.confined_databases formats).perform noSequence
  have allows : connection.Allows Comparison.confined := by
    simp [ScriptedConnection.Allows, noErrors]
  have unchanged : connection.Agree Request.SameParams connection :=
    .refl (fun _ => ⟨rfl, rfl⟩) connection
  obtain ⟨sameResult, sameRequests⟩ :=
    ScriptedConnection.run_agree
      (fun _ _ _ same => ⟨rfl, same⟩) agree unchanged allows
  obtain ⟨same, refusing⟩ := Comparison.eq_of_confined sameResult
  exact ⟨same, refusing, sameRequests⟩

/-- An upsert of an order line that is there already, in MySQL
and in SQL Server. -/
theorem sameCourse_perform_upsert :
    let lines := TableHandle.orderLines.table
    let upsert := DatabaseOperation.table lines
      (.upsert (.ofList
        [("order_id", .integer 1), ("line", .integer 2), ("qty", .integer 5)]))
    let mysql : Database := ⟨{ engine := .mysql }⟩
    let sqlserver : Database := ⟨{ engine := .sqlserver }⟩
    let connection :=
      { ScriptedConnection.ofTables [] with rows := [[[]]], affected := [3] }
    let first := connection.run mysql.dialect (mysql.perform upsert)
    let second := connection.run sqlserver.dialect (sqlserver.perform upsert)
    first.1 = .ok (.table (.affected 3)) ∧
      first.2.requests.map Request.sql =
        ["SELECT `order_id`, `line` FROM `lines` WHERE `order_id` = ? AND `line` = ? LIMIT 1",
          "UPDATE `lines` SET `qty` = ? WHERE `order_id` = ? AND `line` = ?"] ∧
      second.2.requests.map Request.sql =
        ["SELECT TOP 1 [order_id], [line] FROM [lines] WHERE [order_id] = @P1 AND [line] = @P2",
          "UPDATE [lines] SET [qty] = @P1 WHERE [order_id] = @P2 AND [line] = @P3"] ∧
      first.1 = second.1 ∧ Failure.Refusing first.1 ∧
        first.2.Agree Request.SameParams second.2 := by
  intro lines upsert mysql sqlserver connection first second
  refine ⟨by decide +kernel, by decide +kernel, by decide +kernel, ?_⟩
  have formats : mysql.formats = sqlserver.formats := rfl
  exact sameCourse_perform formats (by simp [upsert]) rfl

end Database

end RecordSql
