import RecordSql.Proofs.Exchange.Ending
import RecordSql.Proofs.Query
import RecordSql.Proofs.TableHandle.Upsert

/-!
# One set of rows

The same criteria mean the same rows to everything that takes criteria.  What
reads rows is sent around their predicate, and what deletes or updates rows has
it after all that it says itself.
-/

namespace RecordSql

namespace Database

/-- What a query comes to with an answer. -/
def read (database : Database) (answer : ReadAnswer) :
    Except Failure (List Record) :=
  (answer.mapError database.failure).map fun rows => rows.map database.record

/-- What a statement that writes comes to with an answer. -/
def written (database : Database) (answer : WriteAnswer) : Except Failure Nat :=
  answer.mapError database.failure

end Database

/-- An operation that is refused like a predicate, or sends one query around it,
with its parameters. -/
structure ReadsAround {α : Type} (predicate : Except Fault Statement)
    (head tail : String) (read : ReadAnswer → Except Failure α)
    (operation : Exchange (Except Failure α)) : Prop where
  transcript_iff : ∀ sendings result, operation.Transcript sendings result ↔
    (∃ fault, predicate = .error fault ∧ sendings = [] ∧
        result = .error (.ofFault fault)) ∨
      ∃ restriction answer, predicate = .ok restriction ∧
        sendings = [.fetch (.around head tail restriction) answer] ∧
        result = read answer
  params : ∀ sendings result query answer,
    operation.Transcript sendings result →
      .fetch query answer ∈ sendings →
        ∃ restriction, predicate = .ok restriction ∧
          query.params = restriction.params

/-- An operation that is refused like a predicate, or because this is empty, or
sends one statement that has it at the end, after WHERE, and its parameters
after those of the head. -/
structure WritesBefore (database : Database)
    (predicate : Except Fault Statement) (head : Statement)
    (operation : Exchange (Except Failure Nat)) : Prop where
  transcript_iff : ∀ sendings result, operation.Transcript sendings result ↔
    (∃ fault, predicate = .error fault ∧ sendings = [] ∧
        result = .error (.ofFault fault)) ∨
      (predicate = .ok .empty ∧ sendings = [] ∧
        result = .error .missingFilter) ∨
        ∃ restriction answer, predicate = .ok restriction ∧
          restriction ≠ .empty ∧
          sendings =
            [.execute (head ++ (.ofSql " WHERE " ++ restriction)) answer] ∧
            result = database.written answer
  missingFilter_iff : ∀ sendings result, operation.Transcript sendings result →
    (result = .error .missingFilter ↔ predicate = .ok .empty)
  params : ∀ sendings result statement answer,
    operation.Transcript sendings result →
      .execute statement answer ∈ sendings →
      ∃ restriction, predicate = .ok restriction ∧
        statement.params = head.params ++ restriction.params

variable {predicate : Except Fault Statement} {head tail : String}

namespace ReadsAround

theorem of_transcript_iff {α : Type} {read : ReadAnswer → Except Failure α}
    {operation : Exchange (Except Failure α)}
    (transcript_iff : ∀ sendings result, operation.Transcript sendings result ↔
      (∃ fault, predicate = .error fault ∧ sendings = [] ∧
          result = .error (.ofFault fault)) ∨
        ∃ restriction answer, predicate = .ok restriction ∧
          sendings = [.fetch (.around head tail restriction) answer] ∧
          result = read answer) :
    ReadsAround predicate head tail read operation where
  transcript_iff := transcript_iff
  params sendings result query answer transcript sent := by
    rcases (transcript_iff sendings result).mp transcript with
      ⟨_, _, rfl, _⟩ | ⟨restriction, _, composed, rfl, _⟩
    · cases sent
    · obtain ⟨rfl, _⟩ := Sending.fetch.inj (List.mem_singleton.mp sent)
      exact ⟨restriction, composed,
        Statement.params_around head tail restriction⟩

theorem mapOk {α β : Type} {read : ReadAnswer → Except Failure α}
    {operation : Exchange (Except Failure α)}
    (reads : ReadsAround predicate head tail read operation) (change : α → β) :
    ReadsAround predicate head tail (fun answer => (read answer).map change)
      (operation.mapOk change) := by
  apply of_transcript_iff
  intro sendings result
  rw [Exchange.transcript_mapOk_iff]
  constructor
  · rintro ⟨outcome, transcript, rfl⟩
    rcases (reads.transcript_iff sendings outcome).mp transcript with
      ⟨fault, refused, nothing, rfl⟩ |
        ⟨restriction, answer, composed, sent, rfl⟩
    · exact .inl ⟨fault, refused, nothing, rfl⟩
    · exact .inr ⟨restriction, answer, composed, sent, rfl⟩
  · rintro (⟨fault, refused, nothing, rfl⟩ |
      ⟨restriction, answer, composed, sent, rfl⟩)
    · exact ⟨_, (reads.transcript_iff _ _).mpr
        (.inl ⟨fault, refused, nothing, rfl⟩), rfl⟩
    · exact ⟨_, (reads.transcript_iff _ _).mpr
        (.inr ⟨restriction, answer, composed, sent, rfl⟩), rfl⟩

end ReadsAround

theorem Database.readsAround_fetch {database : Database}
    {query : Except Fault Statement}
    (surrounds : Composer.Surrounds head tail predicate query) :
    ReadsAround predicate head tail database.read
      (database.fetch (Failure.lift query)) := by
  apply ReadsAround.of_transcript_iff
  intro sendings result
  rw [Database.transcript_fetch_iff, surrounds.composed]
  cases predicate with
  | error fault => simp [Failure.lift, Except.mapError, Except.map]
  | ok restriction =>
      simp [Failure.lift, Except.mapError, Except.map, Database.read]

/-- What the driver reports is never that a filter is missing. -/
theorem Database.written_ne_missingFilter (database : Database)
    (answer : WriteAnswer) :
    database.written answer ≠ .error .missingFilter := by
  intro missing
  cases answer with
  | ok rows => cases missing
  | error error =>
      have reported : (database.failure error).isReported = true :=
        (Failure.ofDriver_reports _ _ error).1
      rw [Except.error.inj missing] at reported
      cases reported

theorem WritesBefore.of_transcript_iff {database : Database} {head : Statement}
    {operation : Exchange (Except Failure Nat)}
    (transcript_iff : ∀ sendings result, operation.Transcript sendings result ↔
      (∃ fault, predicate = .error fault ∧ sendings = [] ∧
          result = .error (.ofFault fault)) ∨
        (predicate = .ok .empty ∧ sendings = [] ∧
          result = .error .missingFilter) ∨
          ∃ restriction answer, predicate = .ok restriction ∧
            restriction ≠ .empty ∧
            sendings =
              [.execute (head ++ (.ofSql " WHERE " ++ restriction)) answer] ∧
              result = database.written answer) :
    WritesBefore database predicate head operation where
  transcript_iff := transcript_iff
  missingFilter_iff sendings result transcript := by
    rcases (transcript_iff sendings result).mp transcript with
      ⟨fault, rfl, _, rfl⟩ | ⟨rfl, _, rfl⟩ |
        ⟨restriction, answer, rfl, present, _, rfl⟩
    · cases fault <;> simp [Failure.ofFault]
    · simp
    · simp [database.written_ne_missingFilter answer, present]
  params sendings result statement answer transcript sent := by
    rcases (transcript_iff sendings result).mp transcript with
      ⟨_, _, rfl, _⟩ | ⟨_, rfl, _⟩ | ⟨restriction, _, composed, _, rfl, _⟩
    · cases sent
    · cases sent
    · obtain ⟨rfl, _⟩ := Sending.execute.inj (List.mem_singleton.mp sent)
      exact ⟨restriction, composed, by simp⟩

theorem Statement.isEmpty_of_ne {statement : Statement}
    (present : statement ≠ .empty) : statement.isEmpty = false := by
  obtain ⟨parts⟩ := statement
  simpa [isEmpty, empty] using present

namespace TableHandle

variable {handle : TableHandle} {criteria : Criteria}

theorem restriction_of_refused {fault : Fault}
    (refused :
      handle.composer.predicate (some handle.table) criteria = .error fault) :
    handle.restriction criteria = .error (.ofFault fault) := by
  rw [restriction, refused]
  rfl

theorem restriction_of_empty
    (composed :
      handle.composer.predicate (some handle.table) criteria = .ok .empty) :
    handle.restriction criteria = .error .missingFilter := by
  rw [restriction, composed]
  rfl

theorem restriction_of_present {restriction : Statement}
    (composed :
      handle.composer.predicate (some handle.table) criteria = .ok restriction)
    (present : restriction ≠ .empty) :
    handle.restriction criteria = .ok restriction := by
  rw [TableHandle.restriction, composed]
  simp [Failure.lift, Except.mapError, bind, Except.bind,
    Statement.isEmpty_of_ne present]

/-- An operation that composes its statement once the criteria are
known to restrict. -/
theorem writesBefore_execute {head : Statement}
    {compose : Statement → Except Failure Statement}
    (composes :
      ∀ restriction,
        compose restriction = .ok (head ++ restriction.whereClause)) :
    WritesBefore handle.database
      (handle.composer.predicate (some handle.table) criteria) head
      (handle.database.execute (handle.restriction criteria >>= compose)) := by
  apply WritesBefore.of_transcript_iff
  intro sendings result
  rw [Database.transcript_execute_iff]
  cases composed : handle.composer.predicate (some handle.table) criteria with
  | error fault =>
      rw [restriction_of_refused composed]
      simp [bind, Except.bind]
  | ok restriction =>
      by_cases empty : restriction = .empty
      · subst empty
        rw [restriction_of_empty composed]
        simp [bind, Except.bind]
      · rw [restriction_of_present composed empty]
        simp [bind, Except.bind, composes, Statement.whereClause,
          Statement.isEmpty_of_ne empty, empty, Database.written]

theorem writesBefore_delete :
    WritesBefore handle.database
      (handle.composer.predicate (some handle.table) criteria)
      (.ofSql ("DELETE FROM " ++ handle.composer.quote handle.name))
      (handle.delete criteria) :=
  writesBefore_execute fun _ => rfl

/-- What the update of one column has before its predicate. -/
def updateHead (handle : TableHandle) (column : Column) (bound : Param) :
    Statement :=
  .ofSql ("UPDATE " ++ handle.composer.quote handle.name ++ " SET ") ++
    .join ", "
      [(Statement.ofSql (handle.composer.quote column.name ++ " = ")).param
        bound]

@[simp] theorem params_updateHead (column : Column) (bound : Param) :
    (handle.updateHead column bound).params = [bound] := by
  simp [updateHead, Statement.params_join]

theorem writesBefore_updateField {field : String} {value : Value}
    {column : Column} {bound : Param} (known : handle.column field = .ok column)
    (binds : handle.composer.formats.bind value column = .ok bound) :
    WritesBefore handle.database
      (handle.composer.predicate (some handle.table) criteria)
      (handle.updateHead column bound)
      (handle.updateField field value criteria) := by
  have composes : ∀ restriction,
      Failure.lift
          (handle.composer.update handle.name [⟨column, value⟩] restriction) =
        .ok (handle.updateHead column bound ++ restriction.whereClause) := by
    intro restriction
    simp only [Composer.update, List.mapM_cons, List.mapM_nil,
      Composer.assignment, Composer.assignmentParam, binds]
    rfl
  unfold updateField
  rw [known]
  exact writesBefore_execute composes

/-- All that reads or writes rows by some criteria goes by one predicate. -/
structure GoesBy (handle : TableHandle) (criteria : Criteria)
    (predicate : Except Fault Statement) : Prop where
  getMany : ∀ fields, ∃ head tail,
    ReadsAround predicate head tail handle.database.read
      (handle.getMany criteria fields)
  count : ∃ head, ReadsAround predicate head ""
    (fun answer => (handle.database.read answer).map totalOf)
    (handle.count criteria)
  delete : ∃ head : String,
    WritesBefore handle.database predicate (.ofSql head)
      (handle.delete criteria)
  /-- The value of a known column that can be bound is the only
  parameter of the head. -/
  updateField : ∀ field value column bound, handle.column field = .ok column →
    handle.composer.formats.bind value column = .ok bound →
    ∃ head, head.params = [bound] ∧
      WritesBefore handle.database predicate head
        (handle.updateField field value criteria)

theorem goesBy (handle : TableHandle) (criteria : Criteria) :
    handle.GoesBy criteria
      (handle.composer.predicate (some handle.table) criteria) where
  getMany fields :=
    ⟨_, _, Database.readsAround_fetch
      (Composer.surrounds_select handle.name fields none)⟩
  count :=
    ⟨_,
      (Database.readsAround_fetch (Composer.surrounds_count handle.name)).mapOk
        totalOf⟩
  delete := ⟨_, writesBefore_delete⟩
  updateField _ _ column bound known binds :=
    ⟨_, params_updateHead column bound, writesBefore_updateField known binds⟩

end TableHandle

/-- The same criteria are the same predicate in every query that is composed,
and in every operation of a table that reads or writes rows by them. -/
theorem Criteria.goesBy_predicate (criteria : Criteria) :
    (∀ (composer : Composer) (metadata : Option Table),
      composer.QueriesAround metadata criteria) ∧
        ∀ handle : TableHandle, handle.GoesBy criteria
          (handle.composer.predicate (some handle.table) criteria) :=
  ⟨fun composer metadata => composer.queriesAround metadata criteria,
    fun handle => handle.goesBy criteria⟩

/-- Order lines of which there are more than five. -/
theorem Criteria.goesBy_predicate_orderLines :
    let lines := TableHandle.orderLines
    let criteria :=
      Criteria.filter (Filter.empty.add (.of "qty" .greater (.integer 5)))
    let restriction : Statement :=
      .ofPieces [.text "(qty > ", .param (.integer 5), .text ")"]
    lines.composer.predicate (some lines.table) criteria = .ok restriction ∧
      (∃ head, WritesBefore lines.database (.ok restriction) (.ofSql head)
        (lines.delete criteria)) ∧
        ∃ head, head.params = [.integer 7] ∧
          WritesBefore lines.database (.ok restriction) head
            (lines.updateField "qty" (.integer 7) criteria) := by
  intro lines criteria restriction
  have composed : lines.composer.predicate (some lines.table) criteria =
      .ok restriction := by
    decide +kernel
  have goesBy := (Criteria.goesBy_predicate criteria).2 lines
  rw [composed] at goesBy
  have known : lines.column "qty" =
      .ok ⟨"qty", "int", .integer, 1, false, false, none⟩ := by
    decide +kernel
  exact ⟨composed, goesBy.delete,
    goesBy.updateField _ _ _ _ known (by decide +kernel)⟩

end RecordSql
