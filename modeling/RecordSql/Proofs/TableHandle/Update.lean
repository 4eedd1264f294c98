import RecordSql.Proofs.Mutation.Update
import RecordSql.Proofs.TableHandle.Restriction

/-!
# What an update changes

An update sets the columns of its record that are no key.  The key fields
of the record say which row, unless a filter does, and then they have no
part in the update.
-/

namespace RecordSql

/-- A table without the columns of its primary key. -/
def Table.withoutKey (table : Table) : Table :=
  { table with columns :=
    table.columns.filter fun column => !column.primaryKey }

/-- The fields of the primary key that a record has, in the order
of the columns. -/
def Table.keyFields (table : Table) (record : Record) : List (String × Value) :=
  table.primaryKeys.filterMap fun column =>
    (record.get? column.name).map fun value => (column.name, value)

namespace TableHandle

variable {handle : TableHandle} {record : Record} {filter : Option Filter}
  {predicate statement : Statement} {sendings : List Sending}
  {result : Except Failure Nat}

private theorem changes_eq_assignments (handle : TableHandle)
    (record : Record) :
    handle.changes record = handle.table.withoutKey.assignments record :=
  handle.table.filter_assignments record fun column => !column.primaryKey

private theorem presentKeys_eq_ofList (handle : TableHandle) (record : Record) :
    handle.presentKeys record = .ofList (handle.table.keyFields record) := by
  unfold presentKeys
  rw [Table.filter_assignments, Table.assignments, List.map_filterMap]
  simp only [Option.map_map]
  rfl

/-- A name that several columns have is one key. -/
theorem entries_presentKeys (handle : TableHandle) (record : Record) :
    (handle.presentKeys record).entries =
      (handle.table.keyFields record).eraseDups := by
  rw [presentKeys_eq_ofList]
  apply Keys.entries_ofList_of_single
  have given : ∀ field ∈ handle.table.keyFields record,
      record.get? field.1 = some field.2 := by
    intro field member
    obtain ⟨column, _, made⟩ := List.mem_filterMap.mp member
    obtain ⟨value, given, rfl⟩ := Option.map_eq_some_iff.mp made
    exact given
  intro first firstMember second secondMember sameName
  have sameValue := given second secondMember
  rw [← sameName, given first firstMember] at sameValue
  exact Option.some.inj sameValue

private theorem isEmpty_changes_iff :
    (handle.changes record).isEmpty = true ↔
      handle.table.withoutKey.presentColumns record = [] := by
  rw [changes_eq_assignments, ← Table.column_assignments, List.map_eq_nil_iff,
    List.isEmpty_iff]

/-- Records that agree on all other columns have the same changes, whatever
their keys are. -/
private theorem changes_of_agree {other : Record}
    (agree : ∀ column ∈ handle.table.withoutKey.columns,
      record.get? column.name = other.get? column.name) :
    handle.changes record = handle.changes other := by
  rw [changes_eq_assignments, changes_eq_assignments]
  apply List.filterMap_congr
  intro column member
  rw [agree column member]

theorem isEmpty_of_updatePredicate
    (composed : handle.updatePredicate record filter = .ok predicate) :
    predicate.isEmpty = false := by
  cases filter with
  | none =>
      rw [updatePredicate, keyPredicate_eq_restriction] at composed
      exact (predicate_of_restriction composed).2
  | some filter => exact (predicate_of_restriction composed).2

/-- A statement sets the columns of a record that are no key, each to the value
of the record, in the rows of a predicate. -/
structure Sets (handle : TableHandle) (record : Record)
    (predicate statement : Statement) : Prop where
  text :
    let columns := handle.table.withoutKey.presentColumns record
    handle.database.dialect.readUpdate?
        (statement.executable handle.database.dialect).toList =
      some ⟨Text.splitOn (· == '.') handle.name.toList,
        columns.map fun column => Text.splitOn (· == '.') column.name.toList,
          List.range' 1 columns.length,
          (predicate.renderFrom (fun position _ =>
            handle.database.dialect.placeholder position)
            columns.length).toList⟩
  params : ∃ set, statement.params = set ++ predicate.params ∧
    List.Forall₂ (handle.composer.BindsColumn record)
      (handle.table.withoutKey.presentColumns record) set

private theorem update_eq (handle : TableHandle) (record : Record)
    (predicate : Statement) :
    handle.composer.update handle.name (handle.changes record) predicate =
      handle.composer.updateOf handle.name
        (handle.table.withoutKey.presentColumns record) predicate <$>
      (handle.table.withoutKey.assignments record).mapM
        handle.composer.assignmentParam := by
  rw [Composer.update_eq_map, changes_eq_assignments, Table.column_assignments]

private theorem exists_sets
    (several : handle.table.withoutKey.presentColumns record ≠ [])
    (present : predicate.isEmpty = false) (accepted : ∀ fault,
      ¬ handle.composer.RefusesFirst handle.table.withoutKey record fault) :
    ∃ statement,
      handle.composer.update handle.name (handle.changes record) predicate =
        .ok statement ∧ handle.Sets record predicate statement := by
  cases bound : (handle.table.withoutKey.assignments record).mapM
      handle.composer.assignmentParam with
  | error fault =>
      exact absurd (Composer.mapM_assignments_eq_error_iff.mp bound)
        (accepted fault)
  | ok params =>
      have binds := Composer.bindsColumn_of_mapM bound
      refine ⟨_, by rw [update_eq, bound]; rfl, ?_⟩
      constructor
      · exact Composer.readUpdate?_updateOf several binds.length_eq present
      · exact ⟨params, Composer.params_updateOf binds.length_eq, binds⟩

/-- What becomes of an update: in every case one of the fields says which
transcripts it has. -/
structure Updates (handle : TableHandle) (record : Record)
    (filter : Option Filter) : Prop where
  /-- It succeeds with nothing sent if and only if the record has
  no column to set. -/
  unchanged_iff : (handle.update record filter).Transcript [] (.ok 0) ↔
    handle.table.withoutKey.presentColumns record = []
  unchanged : handle.table.withoutKey.presentColumns record = [] →
    ∀ sendings result,
      (handle.update record filter).Transcript sendings result ↔
        sendings = [] ∧ result = .ok 0
  /-- Refused keys or a refused filter count before any value
  that does not bind. -/
  unaddressed : ∀ failure, handle.table.withoutKey.presentColumns record ≠ [] →
    handle.updatePredicate record filter = .error failure → ∀ sendings result,
      (handle.update record filter).Transcript sendings result ↔
        sendings = [] ∧ result = .error failure
  unbound : ∀ predicate fault,
    handle.updatePredicate record filter = .ok predicate →
      handle.composer.RefusesFirst handle.table.withoutKey record fault →
      ∀ sendings result,
        (handle.update record filter).Transcript sendings result ↔
          sendings = [] ∧ result = .error (.ofFault fault)
  sent : ∀ predicate, handle.table.withoutKey.presentColumns record ≠ [] →
    handle.updatePredicate record filter = .ok predicate →
    (∀ fault,
      ¬ handle.composer.RefusesFirst handle.table.withoutKey record fault) →
      ∃ statement, handle.Sets record predicate statement ∧ ∀ sendings result,
        (handle.update record filter).Transcript sendings result ↔
          ∃ answer, sendings = [.execute statement answer] ∧
            result = answer.mapError handle.database.failure
  /-- Without a filter the row is addressed by the key fields of the record. -/
  byKeys : filter = none → ∃ keys : Keys,
    keys.entries = (handle.table.keyFields record).eraseDups ∧
      handle.updatePredicate record filter = handle.keyPredicate keys
  /-- A filter addresses the rows alone, and it must restrict. -/
  byFilter : ∀ given, filter = some given →
    handle.updatePredicate record filter = handle.restriction (.filter given)
  /-- With a filter the whole exchange is the same for all values of the
  keys. -/
  keyless : ∀ given other, filter = some given →
    (∀ column ∈ handle.table.withoutKey.columns,
      record.get? column.name = other.get? column.name) →
        handle.update record filter = handle.update other filter

private theorem update_of_changes
    (several : handle.table.withoutKey.presentColumns record ≠ []) :
    handle.update record filter =
      handle.updateWhere (handle.changes record)
        (handle.updatePredicate record filter) := by
  rw [update, if_neg]
  rwa [isEmpty_changes_iff]

private theorem updateWhere_ok (assignments : List Assignment)
    (predicate : Statement) : handle.updateWhere assignments (.ok predicate) =
      handle.database.execute
        (Failure.lift
          (handle.composer.update handle.name assignments predicate)) :=
  rfl

private theorem update_of_unchanged
    (nothing : handle.table.withoutKey.presentColumns record = []) :
    handle.update record filter = .done (.ok 0) := by
  rw [update, if_pos]
  rwa [isEmpty_changes_iff]

private theorem presentColumns_ne_nil_of_refusesFirst {fault : Fault}
    (refused :
      handle.composer.RefusesFirst handle.table.withoutKey record fault) :
    handle.table.withoutKey.presentColumns record ≠ [] := by
  obtain ⟨before, column, after, value, split, _, given, _⟩ := refused
  have present : column ∈ handle.table.withoutKey.presentColumns record := by
    apply List.mem_filter.mpr
    exact ⟨by simp [split], by simp [Record.has, given]⟩
  exact List.ne_nil_of_mem present

theorem updates (handle : TableHandle) (record : Record)
    (filter : Option Filter) : handle.Updates record filter where
  unchanged_iff := by
    constructor
    · intro transcript
      by_contra several
      rw [update_of_changes several] at transcript
      rcases Database.transcript_execute_iff.mp transcript with
        ⟨_, _, _, refused⟩ | ⟨_, _, _, sent, _⟩
      · cases refused
      · cases sent
    · intro nothing
      rw [update_of_unchanged nothing]
      exact .done
  unchanged nothing sendings result := by
    rw [update_of_unchanged nothing]
    exact Exchange.transcript_done_iff
  unaddressed failure several refused sendings result := by
    rw [update_of_changes several, updateWhere, refused]
    exact Exchange.transcript_done_iff
  unbound predicate fault composed refused sendings result := by
    have unset :
        handle.composer.update handle.name (handle.changes record) predicate =
          .error fault := by
      rw [update_eq, Composer.mapM_assignments_eq_error_iff.mpr refused]
      rfl
    rw [update_of_changes (presentColumns_ne_nil_of_refusesFirst refused),
      composed, updateWhere_ok, unset]
    exact Exchange.transcript_done_iff
  sent predicate several composed accepted := by
    obtain ⟨statement, updated, sets⟩ :=
      exists_sets several (isEmpty_of_updatePredicate composed) accepted
    refine ⟨statement, sets, ?_⟩
    intro sendings result
    rw [update_of_changes several, composed, updateWhere_ok, updated,
      Database.transcript_execute_iff]
    simp [Failure.lift, Except.mapError]
  byKeys unfiltered := by
    subst unfiltered
    exact ⟨handle.presentKeys record, entries_presentKeys handle record, rfl⟩
  byFilter given filtered := by
    subst filtered
    rfl
  keyless given other filtered agree := by
    subst filtered
    unfold update updatePredicate
    rw [changes_of_agree agree]

end TableHandle

end RecordSql
