import RecordSql.Proofs.Database.Ending
import RecordSql.Proofs.Database.Performance
import RecordSql.Proofs.TableHandle.Upsert

/-!
# Refusals before anything is sent

Every operation validates its input before it sends a statement, but for the
upsert: it asks whether the record is there before it finds out whether the
record can be stored.
-/

namespace RecordSql

/-- Input that is refused is refused before anything is sent. -/
def Exchange.ValidatesFirst {α : Type}
    (exchange : Exchange (Except Failure α)) : Prop :=
  ∀ sendings failure, exchange.Transcript sendings (.error failure) →
    failure.isReported = false → sendings = []

namespace TableHandle

/-- A record whose values fit the columns, and which has a key field unless it
has nothing else. -/
def Storable (handle : TableHandle) (record : Record) : Prop :=
  (∃ statement,
      handle.composer.insert handle.table handle.name record false =
        .ok statement) ∧
    (handle.changes record = [] ∨ (handle.presentKeys record).isEmpty = false)

variable {handle : TableHandle} {record : Record} {sendings : List Sending}

private theorem exists_assignmentParam (inserts : ∃ statement,
      handle.composer.insert handle.table handle.name record false =
        .ok statement) : ∀ assignment ∈ handle.table.assignments record,
      ∃ param, handle.composer.assignmentParam assignment = .ok param := by
  obtain ⟨statement, composed⟩ := inserts
  obtain ⟨params, bound, _⟩ := Outcome.bind_eq_ok_iff.mp composed
  exact Outcome.exists_mapM_eq_ok_iff.mp ⟨params, bound⟩

/-- The key fields of a record can be composed if its whole key can, unless
there are none. -/
private theorem exists_presentKeys {keys : Keys} {looked : Statement}
    (known : handle.keysOf record = .ok keys)
    (predicate : handle.keyPredicate keys = .ok looked)
    (present : (handle.presentKeys record).isEmpty = false) :
    ∃ addressed,
      handle.keyPredicate (handle.presentKeys record) = .ok addressed := by
  have composes := Composer.exists_keys_eq_ok_iff.mp
    ⟨looked, Failure.lift_eq_ok_iff.mp predicate⟩
  have only : ∃ addressed,
      handle.composer.keys (some handle.table) (handle.presentKeys record) =
        .ok addressed := by
    apply Composer.exists_keys_eq_ok_iff.mpr
    refine ⟨present, ?_⟩
    rw [presentKeys_eq_only known]
    intro entry member
    exact composes.2 entry (List.mem_filter.mp member).1
  obtain ⟨addressed, composed⟩ := only
  exact ⟨addressed, Failure.lift_eq_ok_iff.mpr composed⟩

private theorem exists_update {query : Statement}
    (composed : handle.existenceQuery record = .ok query)
    (storable : handle.Storable record) (changed : handle.changes record ≠ []) :
    ∃ statement, (do
      let predicate ← handle.updatePredicate record none
      Failure.lift
          (handle.composer.update handle.name
            (handle.changes record) predicate)) =
        .ok statement := by
  obtain ⟨keys, known, looking⟩ := Outcome.bind_eq_ok_iff.mp composed
  obtain ⟨looked, predicate, _⟩ := Outcome.bind_eq_ok_iff.mp looking
  have present := storable.2.resolve_left changed
  obtain ⟨addressed, addresses⟩ := exists_presentKeys known predicate present
  have bound := exists_assignmentParam storable.1
  obtain ⟨sets, setsOk⟩ : ∃ sets,
      (handle.changes record).mapM handle.composer.assignment = .ok sets := by
    apply Outcome.exists_mapM_eq_ok_iff.mpr
    intro assignment member
    obtain ⟨param, paramOk⟩ := bound assignment (List.mem_filter.mp member).1
    exact ⟨_, Outcome.bind_eq_ok_iff.mpr ⟨param, paramOk, rfl⟩⟩
  obtain ⟨statement, composed⟩ : ∃ statement,
      handle.composer.update handle.name (handle.changes record) addressed =
        .ok statement :=
    ⟨_, Outcome.bind_eq_ok_iff.mpr ⟨sets, setsOk, rfl⟩⟩
  exact ⟨statement, Outcome.bind_eq_ok_iff.mpr
    ⟨addressed, addresses, Failure.lift_eq_ok_iff.mpr composed⟩⟩

/-- What could be composed fails only as the driver reports. -/
private theorem isReported_of_execute {statement : Statement}
    {failure : Failure}
    (transcript : (handle.database.execute (.ok statement)).Transcript sendings
      (.error failure)) : failure.isReported = true := by
  rcases Database.transcript_execute_iff.mp transcript with
    ⟨_, refused, _⟩ | ⟨_, answer, _, _, failed⟩
  · cases refused
  · cases answer with
    | ok rows => cases failed
    | error error =>
        cases failed
        exact (Failure.ofDriver_reports _ _ error).1

/-- A record that both writes can store is refused before the existence query
or not at all. -/
private theorem validatesFirst_upsert
    (storable : ∀ query, handle.existenceQuery record = .ok query →
      handle.Storable record) : (handle.upsert record).ValidatesFirst := by
  intro sendings failure transcript unreported
  rcases transcript_upsert_iff.mp transcript with
    ⟨_, tested, same⟩ | ⟨query, rows, rest, composed, _, written⟩
  · cases same
    exact (orderly_containsRecord record tested).eq_nil_of_refused
      rfl unreported
  · have stores := storable query composed
    have reported : failure.isReported = true := by
      split at written
      · obtain ⟨outcome, sent, same⟩ := Exchange.transcript_map_iff.mp written
        obtain ⟨statement, inserts⟩ := stores.1
        rw [inserts] at sent
        cases same
        exact isReported_of_execute sent
      · unfold update at written
        split at written
        · cases written
        next changed =>
          have changed : handle.changes record ≠ [] := by simpa using changed
          obtain ⟨statement, updates⟩ := exists_update composed stores changed
          rw [updateWhere, updates] at written
          exact isReported_of_execute written
    rw [reported] at unreported
    cases unreported

/-- An update by the key of a record needs a key field. -/
theorem update_refused (changed : handle.changes record ≠ [])
    (absent : (handle.presentKeys record).isEmpty = true) :
    (handle.update record none).Transcript [] (.error .emptyKeySet) := by
  have noKeys : handle.keyPredicate (handle.presentKeys record) =
      .error .emptyKeySet := by
    simp only [keyPredicate, Composer.keys, absent, if_true]
    rfl
  have updates : (handle.changes record).isEmpty = false := by
    simpa using changed
  simp only [update, updates]
  refine Database.transcript_execute_iff.mpr (.inl ⟨.emptyKeySet, ?_, rfl, rfl⟩)
  simp only [updatePredicate, noKeys]
  rfl

/-- An answer without a row leads to the insert and one with a row to the
update, so neither may refuse the record. -/
private theorem storable_of_validatesFirst {query : Statement}
    (validates : (handle.upsert record).ValidatesFirst)
    (composed : handle.existenceQuery record = .ok query) :
    handle.Storable record := by
  constructor
  · cases inserted :
        handle.composer.insert handle.table handle.name record false with
    | ok statement => exact ⟨statement, rfl⟩
    | error fault =>
        have refusing : (handle.insert record false).Transcript []
            (.error (.ofFault fault)) := by
          refine Exchange.transcript_map_iff.mpr ⟨_, ?_, rfl⟩
          exact Database.transcript_execute_iff.mpr
            (.inl ⟨.ofFault fault, by rw [inserted]; rfl, rfl, rfl⟩)
        have unreported :=
          Failure.refusing_lift (.error fault : Except Fault Statement) _ rfl
        have nothing := validates _ _
          (transcript_upsert_iff.mpr
            (.inr ⟨query, [], [], composed, rfl, refusing⟩)) unreported
        cases nothing
  · by_contra unaddressed
    obtain ⟨changed, absent⟩ := not_or.mp unaddressed
    have refusing := update_refused changed (by simpa using absent)
    have nothing := validates _ _
      (transcript_upsert_iff.mpr
        (.inr ⟨query, [[]], [], composed, rfl, refusing⟩)) rfl
    cases nothing

private theorem validatesFirst_upsert_iff :
    (handle.upsert record).ValidatesFirst ↔
      ∀ query, handle.existenceQuery record = .ok query →
        handle.Storable record :=
  ⟨fun validates _ composed => storable_of_validatesFirst validates composed,
    validatesFirst_upsert⟩

end TableHandle

private theorem validatesFirst_mapOk_iff {α β : Type}
    {exchange : Exchange (Except Failure α)} {change : α → β} :
    (exchange.mapOk change).ValidatesFirst ↔ exchange.ValidatesFirst := by
  constructor
  · intro validates sendings failure transcript
    exact validates sendings failure
      (Exchange.transcript_mapOk_iff.mpr ⟨.error failure, transcript, rfl⟩)
  · intro validates sendings failure transcript
    obtain ⟨outcome, inner, same⟩ := Exchange.transcript_mapOk_iff.mp transcript
    cases outcome with
    | ok value => cases same
    | error refusal =>
        cases same
        exact validates sendings _ inner

/-- An operation validates its input before it sends anything, unless it is an
upsert of a record that can be looked up but not be stored. -/
theorem Database.validatesFirst_perform_iff (database : Database)
    (operation : DatabaseOperation) :
    (database.perform operation).ValidatesFirst ↔
      ∀ table record, operation = .table table (.upsert record) →
        ∀ query,
          TableHandle.existenceQuery ⟨database, table⟩ record = .ok query →
            TableHandle.Storable ⟨database, table⟩ record := by
  by_cases isUpsert : ∃ table record, operation = .table table (.upsert record)
  · obtain ⟨table, record, rfl⟩ := isUpsert
    have upserts :
        (database.perform (.table table (.upsert record))).ValidatesFirst ↔
          (TableHandle.upsert ⟨database, table⟩ record).ValidatesFirst :=
      validatesFirst_mapOk_iff.trans validatesFirst_mapOk_iff
    rw [upserts, TableHandle.validatesFirst_upsert_iff]
    constructor
    · intro storable _ _ same
      cases same
      exact storable
    · intro storable
      exact storable table record rfl
  · constructor
    · intro _ table record same
      exact absurd ⟨table, record, same⟩ isUpsert
    · intro _ sendings failure transcript unreported
      obtain ⟨preceding, rest, rfl, precedes, concludes⟩ :=
        Performance.concludes
          ⟨⟨database, operation⟩, sendings, .error failure, transcript⟩
      cases precedes with
      | existence _ same _ => exact absurd ⟨_, _, same⟩ isUpsert
      | nothing =>
          rcases concludes with ending | ⟨_, _, _, _, _, _, passed⟩
          · exact ending.eq_nil_of_refused rfl unreported
          · cases passed

/-- An upsert of a line without its key looks for a line whose key is null, and
is refused once it has found one. -/
theorem Database.upsert_asks_before_refusal :
    let record := Record.ofList [("qty", .integer 5)]
    let keys : Keys := .ofList [("order_id", .null), ("line", .null)]
    let looked : Statement :=
      .ofPieces [.text "order_id IS NULL AND line IS NULL"]
    let lines := TableHandle.orderLines
    let upsert := lines.database.perform (.table lines.table (.upsert record))
    upsert.Transcript [.fetch (lines.lookup keys looked) (.ok [[]])]
        (.error .emptyKeySet) ∧
      ¬ upsert.ValidatesFirst := by
  intro record keys looked lines upsert
  have composed : lines.existenceQuery record =
      .ok (lines.lookup keys looked) := by
    decide +kernel
  have refused :
      (lines.update record none).Transcript [] (.error .emptyKeySet) :=
    TableHandle.update_refused (by decide +kernel) (by decide +kernel)
  have upserts : (lines.upsert record).Transcript
      [.fetch (lines.lookup keys looked) (.ok [[]])] (.error .emptyKeySet) :=
    TableHandle.transcript_upsert_iff.mpr
      (.inr ⟨_, [[]], [], composed, rfl, refused⟩)
  have transcript : upsert.Transcript
    [.fetch (lines.lookup keys looked) (.ok [[]])] (.error .emptyKeySet) :=
      DatabaseCall.transcript_of_affected lines (.upsert record) rfl upserts
  refine ⟨transcript, ?_⟩
  intro validates
  have nothing := validates _ _ transcript rfl
  cases nothing

end RecordSql
