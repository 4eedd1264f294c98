import RecordSql.Proofs.Exchange.Sending
import RecordSql.Proofs.Mutation.Update
import RecordSql.Proofs.Predicate.Definite
import RecordSql.Proofs.Query
import RecordSql.Proofs.TableHandle.Restriction

/-!
# Nulls in what tables send

What an operation sends to be executed has parameters for the values that
it assigns, null for a null alone, and no null otherwise.  What it asks for
has no null at all.
-/

namespace RecordSql

/-- A parameter stands for the value of an assignment: it is null for a null
alone, and no double without a finite number. -/
structure Assignment.Carries (assignment : Assignment)
    (param : Param) : Prop where
  null_iff : param = .null ↔ assignment.value = .null
  finite : param.IsFinite

namespace Statement

/-- The parameters of a statement are those of some assignments, and definite
ones after them. -/
def Assigns (statement : Statement) (assignments : List Assignment) : Prop :=
  ∃ set restricting, statement.params = set ++ restricting ∧
    List.Forall₂ Assignment.Carries assignments set ∧
    ∀ param ∈ restricting, param.Definite

theorem assigns_of_definite {statement : Statement}
    (definite : statement.Definite) : statement.Assigns [] :=
  ⟨[], statement.params, rfl, .nil, definite⟩

end Statement

namespace Composer

variable {composer : Composer} {statement : Statement}

private theorem carries_of_assignmentParam {assignment : Assignment}
    {param : Param} (bound : composer.assignmentParam assignment = .ok param) :
    assignment.Carries param := by
  constructor
  · constructor
    · rintro rfl
      exact Formats.bind_eq_null_iff.mp bound
    · intro null
      have boundNull : composer.assignmentParam assignment = .ok .null :=
        Formats.bind_eq_null_iff.mpr null
      cases bound.symm.trans boundNull
      rfl
  · exact Formats.isFinite_of_bind bound

private theorem carries_of_mapM {assignments : List Assignment}
    {params : List Param}
    (bound : assignments.mapM composer.assignmentParam = .ok params) :
    List.Forall₂ Assignment.Carries assignments params :=
  (Outcome.mapM_eq_ok_iff.mp bound).imp fun _ _ => carries_of_assignmentParam

theorem carries_of_insert {metadata : Table} {table : String} {record : Record}
    {ignore : Bool}
    (composed : composer.insert metadata table record ignore = .ok statement) :
    List.Forall₂ Assignment.Carries
      (metadata.assignments record) statement.params := by
  rw [insert_eq_map] at composed
  obtain ⟨params, bound, rfl⟩ := Outcome.map_eq_ok_iff.mp composed
  rw [params_insertOf (bindsColumn_of_mapM bound).length_eq]
  exact carries_of_mapM bound

theorem carries_of_update {table : String} {assignments : List Assignment}
    {predicate : Statement}
    (composed : composer.update table assignments predicate = .ok statement) :
    ∃ set, statement.params = set ++ predicate.params ∧
      List.Forall₂ Assignment.Carries assignments set := by
  rw [update_eq_map] at composed
  obtain ⟨params, bound, rfl⟩ := Outcome.map_eq_ok_iff.mp composed
  have carries := carries_of_mapM bound
  refine ⟨params, params_updateOf ?_, carries⟩
  rw [List.length_map, carries.length_eq]

variable {metadata : Option Table} {criteria : Criteria}

/-- A query has no parameters but those of its predicate. -/
theorem Surrounds.definite {head tail : String} {query : Except Fault Statement}
    (surrounds :
      Surrounds head tail (composer.predicate metadata criteria) query)
    (composed : query = .ok statement) : statement.Definite := by
  have sameParams := surrounds.params
  rw [composed] at sameParams
  cases predicateOk : composer.predicate metadata criteria with
  | error fault =>
      rw [predicateOk] at sameParams
      cases sameParams
  | ok predicate =>
      rw [predicateOk] at sameParams
      rw [Statement.Definite, Except.ok.inj sameParams]
      exact definite_of_predicate predicateOk

end Composer

namespace TableHandle

variable {handle : TableHandle} {executed asked : Statement → Prop}

/-- What an operation may assign in a statement: the fields of a record,
the changes among them, one value of a column, or the quantity by which a
column is adjusted. -/
inductive Assigns (handle : TableHandle) :
    TableOperation → List Assignment → Prop where
  | insert (record : Record) (ignore : Bool) :
      Assigns handle (.insert record ignore) (handle.table.assignments record)
  | update (record : Record) (filter : Option Filter) :
      Assigns handle (.update record filter) (handle.changes record)
  | upsertInsert (record : Record) :
      Assigns handle (.upsert record) (handle.table.assignments record)
  | upsertUpdate (record : Record) :
      Assigns handle (.upsert record) (handle.changes record)
  | delete (criteria : Criteria) : Assigns handle (.delete criteria) []
  | updateField {field : String} {column : Column} (value : Value)
      (criteria : Criteria) :
      handle.table.column? field = some column →
        Assigns handle (.updateField field value criteria) [⟨column, value⟩]
  | adjust (adjustment : Adjustment) {field : String} {column : Column}
      (keys : Keys) {quantity : Value} :
      handle.table.column? field = some column → quantity ≠ .null →
        Assigns handle
          (.adjust adjustment field keys quantity) [⟨column, quantity⟩]

theorem sends_getOne (keys : Keys) (fields : List String) :
    (handle.getOne keys fields).Sends executed Statement.Definite := by
  apply Exchange.Sends.mapOk
  apply Database.sends_fetch
  intro statement lifted
  exact (Composer.surrounds_select handle.name fields _).definite
    (Failure.lift_eq_ok_iff.mp lifted)

theorem sends_contains (keys : Keys) :
    (handle.contains keys).Sends executed Statement.Definite := by
  unfold contains
  split
  · exact .done _
  · exact (sends_getOne keys _).mapOk _

theorem sends_containsRecord (record : Record) :
    (handle.containsRecord record).Sends executed Statement.Definite := by
  unfold containsRecord
  split
  · exact .done _
  · exact sends_contains _

theorem sends_getMany (criteria : Criteria) (fields : List String) :
    (handle.getMany criteria fields).Sends executed Statement.Definite := by
  apply Database.sends_fetch
  intro statement lifted
  exact (Composer.surrounds_select handle.name fields _).definite
    (Failure.lift_eq_ok_iff.mp lifted)

theorem sends_count (criteria : Criteria) :
    (handle.count criteria).Sends executed Statement.Definite := by
  apply Exchange.Sends.mapOk
  apply Database.sends_fetch
  intro statement lifted
  exact (Composer.surrounds_count handle.name).definite
    (Failure.lift_eq_ok_iff.mp lifted)

theorem sends_getBytes (keys : Keys) (field : String) :
    (handle.getBytes keys field).Sends executed Statement.Definite := by
  unfold getBytes
  split
  · exact .done _
  · exact (sends_getOne keys [field]).mapOk _

theorem sends_insert (record : Record) (ignore : Bool) :
    (handle.insert record ignore).Sends
      (fun statement => statement.Assigns (handle.table.assignments record))
      asked := by
  apply Exchange.Sends.map
  apply Database.sends_execute
  intro statement lifted
  have carries := Composer.carries_of_insert (Failure.lift_eq_ok_iff.mp lifted)
  exact ⟨statement.params, [], (List.append_nil _).symm, carries, by simp⟩

private theorem definite_of_restriction {criteria : Criteria}
    {predicate : Statement}
    (restricted : handle.restriction criteria = .ok predicate) :
    predicate.Definite :=
  Composer.definite_of_predicate (predicate_of_restriction restricted).1

private theorem definite_of_keyPredicate {keys : Keys} {predicate : Statement}
    (composed : handle.keyPredicate keys = .ok predicate) :
    predicate.Definite :=
  (Composer.conjoins_of_keys (Failure.lift_eq_ok_iff.mp composed)).definite

private theorem definite_of_updatePredicate {record : Record}
    {filter : Option Filter} {predicate : Statement}
    (composed : handle.updatePredicate record filter = .ok predicate) :
    predicate.Definite := by
  cases filter with
  | none => exact definite_of_keyPredicate composed
  | some filter => exact definite_of_restriction composed

private theorem sends_updateWhere (assignments : List Assignment)
    {composed : Except Failure Statement}
    (definite : ∀ predicate, composed = .ok predicate → predicate.Definite) :
    (handle.updateWhere assignments composed).Sends
      (fun statement => statement.Assigns assignments) asked := by
  apply Database.sends_execute
  intro statement updated
  obtain ⟨predicate, predicateOk, lifted⟩ := Outcome.bind_eq_ok_iff.mp updated
  obtain ⟨set, params, carries⟩ :=
    Composer.carries_of_update (Failure.lift_eq_ok_iff.mp lifted)
  exact ⟨set, predicate.params, params, carries, definite predicate predicateOk⟩

theorem sends_update (record : Record) (filter : Option Filter) :
    (handle.update record filter).Sends
      (fun statement => statement.Assigns (handle.changes record)) asked := by
  unfold update
  split
  · exact .done _
  · apply sends_updateWhere
    intro predicate
    exact definite_of_updatePredicate

theorem sends_delete (criteria : Criteria) :
    (handle.delete criteria).Sends
      (fun statement => statement.Assigns []) asked := by
  apply Database.sends_execute
  intro statement composed
  obtain ⟨predicate, restricted, built⟩ := Outcome.bind_eq_ok_iff.mp composed
  cases built
  apply Statement.assigns_of_definite
  simp [Composer.delete, definite_of_restriction restricted]

theorem sends_updateField {field : String} {column : Column} (value : Value)
    (criteria : Criteria) (known : handle.table.column? field = some column) :
    (handle.updateField field value criteria).Sends
      (fun statement => statement.Assigns [⟨column, value⟩]) asked := by
  unfold updateField TableHandle.column
  rw [known]
  apply sends_updateWhere
  intro predicate
  exact definite_of_restriction

private theorem definite_of_quantityParam {field : String} {quantity : Value}
    {param : Param} (bound : quantityParam field quantity = .ok param) :
    param.Definite ∧ quantity ≠ .null := by
  unfold quantityParam at bound
  split at bound
  · cases bound
    exact ⟨Param.definite_integer _, by simp⟩
  · split at bound
    · next finite =>
        cases bound
        exact ⟨Param.definite_double finite, by simp⟩
    · cases bound
  · cases bound

theorem sends_adjust (adjustment : Adjustment) (field : String) (keys : Keys)
    (quantity : Value) :
    (handle.adjust adjustment field keys quantity).Sends
      (fun statement => ∃ assignments,
        handle.Assigns (.adjust adjustment field keys quantity) assignments ∧
          statement.Assigns assignments) asked := by
  apply Database.sends_execute
  intro statement composed
  obtain ⟨column, columnOk, bound⟩ := Outcome.bind_eq_ok_iff.mp composed
  obtain ⟨param, paramOk, addressed⟩ := Outcome.bind_eq_ok_iff.mp bound
  obtain ⟨predicate, predicateOk, built⟩ := Outcome.bind_eq_ok_iff.mp addressed
  cases built
  obtain ⟨definite, notNull⟩ := definite_of_quantityParam paramOk
  have known : handle.table.column? field = some column := by
    unfold TableHandle.column at columnOk
    split at columnOk
    · cases columnOk
      assumption
    · cases columnOk
  refine ⟨_, .adjust adjustment keys known notNull, [param],
    predicate.params, ?_, ?_, ?_⟩
  · simp [Composer.adjust]
  · exact .cons ⟨by simp [definite.notNull, notNull], definite.finite⟩ .nil
  · exact definite_of_keyPredicate predicateOk

private theorem sends_assigned {α : Type} {operation : TableOperation}
    {assignments : List Assignment} {exchange : Exchange α}
    (ofOperation : handle.Assigns operation assignments)
    (sends :
      exchange.Sends (fun statement => statement.Assigns assignments) asked) :
    exchange.Sends
      (fun statement => ∃ assignments, handle.Assigns operation assignments ∧
        statement.Assigns assignments) asked := by
  apply sends.weaken
  intro statement assigns
  exact ⟨assignments, ofOperation, assigns⟩

/-- Every operation assigns in what it executes, and compares in what it asks,
without a null that is not the value of an assignment. -/
theorem sends_perform (operation : TableOperation) :
    (handle.perform operation).Sends
      (fun statement => ∃ assignments, handle.Assigns operation assignments ∧
        statement.Assigns assignments) Statement.Definite := by
  cases operation with
  | contains keys => exact (sends_contains keys).mapOk _
  | containsRecord record => exact (sends_containsRecord record).mapOk _
  | getOne keys fields => exact (sends_getOne keys fields).mapOk _
  | getMany criteria fields => exact (sends_getMany criteria fields).mapOk _
  | count criteria => exact (sends_count criteria).mapOk _
  | getBytes keys field => exact (sends_getBytes keys field).mapOk _
  | insert record ignore =>
      exact (sends_assigned (.insert record ignore)
        (sends_insert record ignore)).mapOk _
  | update record filter =>
      exact (sends_assigned (.update record filter)
        (sends_update record filter)).mapOk _
  | upsert record =>
      apply Exchange.Sends.mapOk
      apply (sends_containsRecord record).andThen
      intro found
      split
      · exact sends_assigned (.upsertUpdate record) (sends_update record none)
      · exact sends_assigned (.upsertInsert record) (sends_insert record false)
  | delete criteria =>
      exact (sends_assigned (.delete criteria) (sends_delete criteria)).mapOk _
  | updateField field value criteria =>
      apply Exchange.Sends.mapOk
      cases known : handle.table.column? field with
      | none =>
          unfold updateField column
          rw [known]
          exact .done _
      | some column =>
          apply sends_assigned (.updateField value criteria known)
          exact sends_updateField value criteria known
  | adjust adjustment field keys quantity =>
      exact (sends_adjust adjustment field keys quantity).mapOk _

end TableHandle

end RecordSql
