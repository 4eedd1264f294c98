import RecordSql.Proofs.Mutation
import RecordSql.Proofs.Predicate.Keys
import RecordSql.Proofs.Predicate.Restriction
import RecordSql.Proofs.TableHandle.Ending
import RecordSql.Proofs.TableHandle.Reading
import RecordSql.Proofs.TableHandle.Upsert

/-!
# Restricted writing

Whatever an operation updates or deletes it restricts by its criteria.  Criteria
that select every record are refused, if the operation comes to look at them.
-/

namespace RecordSql

/-- What is said of criteria that select every record. -/
def Criteria.refusal : Criteria → Failure
  | .keys _ => .emptyKeySet
  | _ => .missingFilter

namespace TableHandle

/-- What an operation restricts the records by that it updates or deletes. -/
def criteria? (handle : TableHandle) : TableOperation → Option Criteria
  | .update record none | .upsert record =>
      some (.keys (handle.presentKeys record))
  | .update _ (some filter) => some (.filter filter)
  | .delete criteria | .updateField _ _ criteria => some criteria
  | .adjust _ _ keys _ => some (.keys keys)
  | _ => none

/-- A statement has a head, and after the keyword WHERE the predicate of
criteria, which is not blank. -/
structure WritesWhere (handle : TableHandle) (criteria : Criteria)
    (head predicate statement : Statement) : Prop where
  composed : handle.composer.predicate (some handle.table) criteria =
    .ok predicate
  restricts : handle.composer.Restricts (some handle.table) criteria predicate
  text : statement.executable handle.database.dialect =
    head.executable handle.database.dialect ++ " WHERE " ++
      predicate.renderFrom (fun position _ =>
        handle.database.dialect.placeholder position) head.params.length
  params : statement.params = head.params ++ predicate.params
  visible :
    Text.isAllBlank
      (predicate.renderFrom (fun position _ =>
        handle.database.dialect.placeholder position) head.params.length) =
      false

/-- The criteria do not select every record, and the statement is
restricted by them. -/
def Heeds (handle : TableHandle) (criteria : Criteria)
    (statement : Statement) : Prop :=
  criteria.selectsAll = false ∧
    ∃ head predicate, handle.WritesWhere criteria head predicate statement

/-- How an operation ends whose criteria select every record: they are refused,
unless a check before has ended it. -/
inductive Declines (handle : TableHandle) :
    TableOperation → List Sending → Except Failure Nat → Prop where
  | refused {operation : TableOperation} {criteria : Criteria} :
      (∀ record, operation ≠ .upsert record) →
        handle.criteria? operation = some criteria →
        Declines handle operation [] (.error criteria.refusal)
  | unchanged {record : Record} {filter : Option Filter} :
      handle.changes record = [] →
        Declines handle (.update record filter) [] (.ok 0)
  | unknownField {field : String} {value : Value} {criteria : Criteria} :
      handle.table.column? field = none →
        Declines handle (.updateField field value criteria) []
          (.error (.unknownColumn handle.name field))
  | unknownTarget {adjustment : Adjustment} {field : String} {keys : Keys}
      {quantity : Value} :
      handle.table.column? field = none →
        Declines handle (.adjust adjustment field keys quantity) []
          (.error (.unknownColumn handle.name field))
  | noQuantity {adjustment : Adjustment} {field : String} {keys : Keys}
      {quantity : Value} {failure : Failure} :
      quantityParam field quantity = .error failure →
        Declines handle (.adjust adjustment field keys quantity) []
          (.error failure)
  | notLookedUp {record : Record} {failure : Failure} :
      handle.existenceQuery record = .error failure →
        Declines handle (.upsert record) [] (.error failure)
  | lookupFailed {record : Record} {query : Statement} (error : DriverError) :
      handle.existenceQuery record = .ok query →
        Declines handle (.upsert record) [.fetch query (.error error)]
          (.error (handle.database.failure error))
  | inserted {record : Record} {query : Statement} {rest : List Sending}
      {result : Except Failure Nat} :
      handle.existenceQuery record = .ok query →
        (handle.insert record false).Transcript rest result →
          Declines handle (.upsert record)
            (.fetch query (.ok []) :: rest) result
  | found {record : Record} {query : Statement} {rows : List Row}
      {result : Except Failure Nat} :
      handle.existenceQuery record = .ok query → rows ≠ [] →
        Declines handle (.update record none) [] result →
          Declines handle (.upsert record) [.fetch query (.ok rows)] result

variable {handle : TableHandle} {criteria : Criteria}
  {predicate statement : Statement} {sendings : List Sending}
  {answer : WriteAnswer} {result : Except Failure Nat}

private theorem mem_keyAssignments_iff {record : Record} {name : String}
    {value : Value} :
    (name, value) ∈ ((handle.table.assignments record).filter fun assignment =>
        assignment.column.primaryKey).map (fun assignment =>
          (assignment.column.name, assignment.value)) ↔
      record.get? name = some value ∧
        ∃ column ∈ handle.table.primaryKeys, column.name = name := by
  simp only [List.mem_map, List.mem_filter, Table.assignments,
    List.mem_filterMap, Option.map_eq_some_iff, Table.primaryKeys,
    Prod.mk.injEq]
  constructor
  · rintro ⟨_, ⟨⟨column, inTable, _, present, rfl⟩, isKey⟩, rfl, rfl⟩
    exact ⟨present, column, ⟨inTable, isKey⟩, rfl⟩
  · rintro ⟨present, column, ⟨inTable, isKey⟩, rfl⟩
    exact ⟨⟨column, value⟩,
      ⟨⟨column, inTable, value, present, rfl⟩, isKey⟩, rfl, rfl⟩

/-- The keys of a record are the fields of the primary key that it has. -/
theorem mem_presentKeys_iff {record : Record} {name : String} {value : Value} :
    (name, value) ∈ (handle.presentKeys record).entries ↔
      record.get? name = some value ∧
        ∃ column ∈ handle.table.primaryKeys, column.name = name := by
  constructor
  · intro member
    exact mem_keyAssignments_iff.mp (Keys.mem_of_mem_ofList member)
  · intro given
    obtain ⟨other, member⟩ :=
      Keys.exists_mem_ofList (mem_keyAssignments_iff.mpr given)
    obtain ⟨present, _⟩ :=
      mem_keyAssignments_iff.mp (Keys.mem_of_mem_ofList member)
    obtain rfl : value = other := Option.some.inj (given.1.symm.trans present)
    exact member

theorem restriction_of_selectsAll (every : criteria.selectsAll = true) :
    handle.restriction criteria = .error criteria.refusal := by
  cases criteria with
  | all => rfl
  | keys given =>
      have nothing : given.isEmpty = true := every
      simp only [restriction, Composer.predicate, Composer.keys,
        nothing, if_true]
      rfl
  | filter given =>
      simp only [restriction, Composer.predicate,
        Composer.filter_of_selectsAll every]
      rfl

theorem predicate_of_restriction
    (restricted : handle.restriction criteria = .ok predicate) :
    handle.composer.predicate (some handle.table) criteria = .ok predicate ∧
      predicate.isEmpty = false := by
  obtain ⟨composed, lifted, kept⟩ := Outcome.bind_eq_ok_iff.mp restricted
  split at kept
  · cases kept
  next present =>
    cases kept
    exact ⟨Failure.lift_eq_ok_iff.mp lifted, by simpa using present⟩

/-- The predicate of keys is one that restricts: the check for an empty one,
which only the second makes, is never met by composed keys. -/
theorem keyPredicate_eq_restriction (keys : Keys) :
    handle.keyPredicate keys = handle.restriction (.keys keys) := by
  unfold keyPredicate restriction
  change _ = Failure.lift (handle.composer.keys (some handle.table) keys) >>= _
  cases composed : handle.composer.keys (some handle.table) keys with
  | error fault => rfl
  | ok predicate =>
      have selective : (Criteria.keys keys).selectsAll = false :=
        (Composer.exists_keys_eq_ok_iff.mp ⟨predicate, composed⟩).1
      have composes :
        handle.composer.predicate (some handle.table) (.keys keys) =
          .ok predicate := composed
      have present :=
        (Composer.restricts_predicate composes selective).1.isEmpty
      simp only [Failure.lift, Except.mapError, bind, Except.bind, present,
        Bool.false_eq_true, if_false]

theorem heeds_of_restriction
    (restricted : handle.restriction criteria = .ok predicate)
    (head : Statement) :
    handle.Heeds criteria (head ++ predicate.whereClause) := by
  have selective : criteria.selectsAll = false := by
    cases every : criteria.selectsAll with
    | false => rfl
    | true =>
        rw [restriction_of_selectsAll every] at restricted
        cases restricted
  obtain ⟨composed, present⟩ := predicate_of_restriction restricted
  obtain ⟨visible, restricts⟩ := Composer.restricts_predicate composed selective
  refine ⟨selective, head, predicate, composed, restricts, ?_, ?_, visible _ _⟩
  · simp [Statement.whereClause, present, Statement.executable_eq_renderFrom,
      String.append_assoc]
  · simp [Statement.whereClause, present]

private theorem heeds_of_updateWhere {assignments : List Assignment}
    (transcript :
      (handle.updateWhere assignments (handle.restriction criteria)).Transcript
        sendings result) (sent : .execute statement answer ∈ sendings) :
    handle.Heeds criteria statement := by
  obtain ⟨predicate, restricted, lifted⟩ :=
    Outcome.bind_eq_ok_iff.mp (Database.composed_of_sent transcript sent).1
  obtain ⟨head, rfl⟩ :=
    Composer.exists_head_of_update (Failure.lift_eq_ok_iff.mp lifted)
  exact heeds_of_restriction restricted head

/-- The predicate of an update is that of its criteria. -/
private theorem updatePredicate_eq_restriction {record : Record}
    {filter : Option Filter}
    (addressed : handle.criteria? (.update record filter) = some criteria) :
    handle.updatePredicate record filter = handle.restriction criteria := by
  cases filter with
  | none =>
      cases addressed
      exact keyPredicate_eq_restriction _
  | some filter =>
      cases addressed
      rfl

private theorem heeds_of_update {record : Record} {filter : Option Filter}
    (addressed : handle.criteria? (.update record filter) = some criteria)
    (transcript : (handle.update record filter).Transcript sendings result)
    (sent : .execute statement answer ∈ sendings) :
    handle.Heeds criteria statement := by
  unfold update at transcript
  split at transcript
  · cases transcript
    cases sent
  · rw [updatePredicate_eq_restriction addressed] at transcript
    exact heeds_of_updateWhere transcript sent

private theorem heeds_of_upsert {record : Record}
    (transcript : (handle.upsert record).Transcript sendings result)
    (sent : .execute statement answer ∈ sendings) :
    (∃ rest, statement.executable handle.database.dialect = "INSERT" ++ rest) ∨
      ∃ criteria, handle.criteria? (.upsert record) = some criteria ∧
        handle.Heeds criteria statement := by
  rcases transcript_upsert_iff.mp transcript with
    ⟨_, tested, _⟩ | ⟨query, rows, rest, _, rfl, written⟩
  · cases reads_containsRecord record tested _ sent
  · replace sent : .execute statement answer ∈ rest := by simpa using sent
    split at written
    · exact .inl (executable_of_insert written sent)
    · exact .inr ⟨_, rfl, heeds_of_update rfl written sent⟩

private theorem heeds_of_delete
    (transcript : (handle.delete criteria).Transcript sendings result)
    (sent : .execute statement answer ∈ sendings) :
    handle.Heeds criteria statement := by
  obtain ⟨predicate, restricted, built⟩ :=
    Outcome.bind_eq_ok_iff.mp (Database.composed_of_sent transcript sent).1
  cases built
  exact heeds_of_restriction restricted _

private theorem heeds_of_updateField {field : String} {value : Value}
    (transcript :
      (handle.updateField field value criteria).Transcript sendings result)
    (sent : .execute statement answer ∈ sendings) :
    handle.Heeds criteria statement := by
  unfold updateField at transcript
  split at transcript
  · cases transcript
    cases sent
  · exact heeds_of_updateWhere transcript sent

private theorem heeds_of_adjust {adjustment : Adjustment} {field : String}
    {keys : Keys} {quantity : Value}
    (transcript :
      (handle.adjust adjustment field keys quantity).Transcript sendings result)
    (sent : .execute statement answer ∈ sendings) :
    handle.Heeds (.keys keys) statement := by
  obtain ⟨_, _, bound⟩ :=
    Outcome.bind_eq_ok_iff.mp (Database.composed_of_sent transcript sent).1
  obtain ⟨_, _, addressed⟩ := Outcome.bind_eq_ok_iff.mp bound
  obtain ⟨predicate, restricted, built⟩ := Outcome.bind_eq_ok_iff.mp addressed
  cases built
  rw [keyPredicate_eq_restriction] at restricted
  exact heeds_of_restriction restricted _

/-- What a table operation sends to be executed inserts, or heeds its
criteria. -/
theorem heeds_of_perform {operation : TableOperation}
    {outcome : Except Failure TableResult}
    (transcript : (handle.perform operation).Transcript sendings outcome)
    (sent : .execute statement answer ∈ sendings) :
    (∃ rest, statement.executable handle.database.dialect = "INSERT" ++ rest) ∨
      ∃ criteria, handle.criteria? operation = some criteria ∧
        handle.Heeds criteria statement := by
  have reading : ∀ {exchange : Exchange (Except Failure TableResult)},
      exchange.Reads →
        exchange.Transcript sendings outcome → False := by
    intro exchange reads transcript
    cases reads transcript _ sent
  cases operation with
  | contains keys =>
      exact (reading ((reads_contains keys).mapOk _) transcript).elim
  | containsRecord record =>
      exact (reading ((reads_containsRecord record).mapOk _) transcript).elim
  | getOne keys fields =>
      exact (reading ((reads_getOne keys fields).mapOk _) transcript).elim
  | getMany criteria fields =>
      exact (reading ((Database.reads_fetch _).mapOk _) transcript).elim
  | count criteria =>
      exact (reading (((Database.reads_fetch _).mapOk _).mapOk _)
        transcript).elim
  | getBytes keys field =>
      exact (reading ((reads_getBytes keys field).mapOk _) transcript).elim
  | insert record ignore =>
      obtain ⟨_, transcript, _⟩ := Exchange.transcript_mapOk_iff.mp transcript
      exact .inl (executable_of_insert transcript sent)
  | update record filter =>
      obtain ⟨_, transcript, _⟩ := Exchange.transcript_mapOk_iff.mp transcript
      cases filter with
      | none => exact .inr ⟨_, rfl, heeds_of_update rfl transcript sent⟩
      | some filter => exact .inr ⟨_, rfl, heeds_of_update rfl transcript sent⟩
  | upsert record =>
      obtain ⟨_, transcript, _⟩ := Exchange.transcript_mapOk_iff.mp transcript
      exact heeds_of_upsert transcript sent
  | delete criteria =>
      obtain ⟨_, transcript, _⟩ := Exchange.transcript_mapOk_iff.mp transcript
      exact .inr ⟨criteria, rfl, heeds_of_delete transcript sent⟩
  | updateField field value criteria =>
      obtain ⟨_, transcript, _⟩ := Exchange.transcript_mapOk_iff.mp transcript
      exact .inr ⟨criteria, rfl, heeds_of_updateField transcript sent⟩
  | adjust adjustment field keys quantity =>
      obtain ⟨_, transcript, _⟩ := Exchange.transcript_mapOk_iff.mp transcript
      exact .inr ⟨.keys keys, rfl, heeds_of_adjust transcript sent⟩

private theorem ends_of_refused {composed : Except Failure Statement}
    {failure : Failure} (refused : composed = .error failure)
    (transcript :
      (handle.database.execute composed).Transcript sendings result) :
    sendings = [] ∧ result = .error failure := by
  rw [refused] at transcript
  exact Exchange.transcript_done_iff.mp transcript

private theorem ends_of_updateWhere {assignments : List Assignment}
    (every : criteria.selectsAll = true)
    (transcript :
      (handle.updateWhere assignments (handle.restriction criteria)).Transcript
        sendings result) :
    sendings = [] ∧ result = .error criteria.refusal := by
  apply ends_of_refused _ transcript
  rw [restriction_of_selectsAll every]
  rfl

private theorem declines_update {record : Record} {filter : Option Filter}
    (addressed : handle.criteria? (.update record filter) = some criteria)
    (every : criteria.selectsAll = true)
    (transcript : (handle.update record filter).Transcript sendings result) :
    sendings = [] ∧ handle.Declines (.update record filter) [] result := by
  unfold update at transcript
  split at transcript
  · next unchanged =>
      obtain ⟨rfl, rfl⟩ := Exchange.transcript_done_iff.mp transcript
      exact ⟨rfl, .unchanged (List.isEmpty_iff.mp unchanged)⟩
  · rw [updatePredicate_eq_restriction addressed] at transcript
    obtain ⟨rfl, rfl⟩ := ends_of_updateWhere every transcript
    exact ⟨rfl, .refused (by simp) addressed⟩

private theorem declines_upsert {record : Record}
    (addressed : handle.criteria? (.upsert record) = some criteria)
    (every : criteria.selectsAll = true)
    (transcript : (handle.upsert record).Transcript sendings result) :
    handle.Declines (.upsert record) sendings result := by
  rcases transcript_upsert_iff.mp transcript with
    ⟨failure, tested, rfl⟩ | ⟨query, rows, rest, composed, rfl, written⟩
  · rcases transcript_containsRecord_iff.mp tested with
      ⟨_, refused, rfl, same⟩ | ⟨query, answer, composed, rfl, same⟩
    · cases same
      exact .notLookedUp refused
    · cases answer with
      | ok rows => cases same
      | error error =>
          cases same
          exact .lookupFailed error composed
  · cases rows with
    | nil => exact .inserted composed written
    | cons row rows =>
        obtain ⟨rfl, declines⟩ := declines_update addressed every written
        exact .found composed (by simp) declines

private theorem declines_delete (every : criteria.selectsAll = true)
    (transcript : (handle.delete criteria).Transcript sendings result) :
    handle.Declines (.delete criteria) sendings result := by
  have refused : (do
      let predicate ← handle.restriction criteria
      pure (handle.composer.delete handle.name predicate)) =
          .error criteria.refusal := by
    rw [restriction_of_selectsAll every]
    rfl
  obtain ⟨rfl, rfl⟩ := ends_of_refused refused transcript
  exact .refused (by simp) rfl

private theorem declines_updateField {field : String} {value : Value}
    (every : criteria.selectsAll = true)
    (transcript :
      (handle.updateField field value criteria).Transcript sendings result) :
    handle.Declines (.updateField field value criteria) sendings result := by
  unfold updateField column at transcript
  cases known : handle.table.column? field with
  | none =>
      rw [known] at transcript
      obtain ⟨rfl, rfl⟩ := Exchange.transcript_done_iff.mp transcript
      exact .unknownField known
  | some column =>
      rw [known] at transcript
      obtain ⟨rfl, rfl⟩ := ends_of_updateWhere every transcript
      exact .refused (by simp) rfl

private theorem declines_adjust {adjustment : Adjustment} {field : String}
    {keys : Keys} {quantity : Value}
    (every : (Criteria.keys keys).selectsAll = true)
    (transcript :
      (handle.adjust adjustment field keys quantity).Transcript
        sendings result) :
    handle.Declines
      (.adjust adjustment field keys quantity) sendings result := by
  unfold adjust column at transcript
  rw [keyPredicate_eq_restriction, restriction_of_selectsAll every]
    at transcript
  cases known : handle.table.column? field with
  | none =>
      rw [known] at transcript
      obtain ⟨rfl, rfl⟩ := ends_of_refused rfl transcript
      exact .unknownTarget known
  | some column =>
      rw [known] at transcript
      cases bound : quantityParam field quantity with
      | error failure =>
          rw [bound] at transcript
          obtain ⟨rfl, rfl⟩ := ends_of_refused rfl transcript
          exact .noQuantity bound
      | ok param =>
          rw [bound] at transcript
          obtain ⟨rfl, rfl⟩ := ends_of_refused rfl transcript
          exact .refused (by simp) rfl

theorem declines_perform {operation : TableOperation}
    {outcome : Except Failure TableResult}
    (addressed : handle.criteria? operation = some criteria)
    (every : criteria.selectsAll = true)
    (transcript : (handle.perform operation).Transcript sendings outcome) :
    ∃ result, outcome = result.map .affected ∧
      handle.Declines operation sendings result := by
  cases operation with
  | update record filter =>
      obtain ⟨result, performed, rfl⟩ :=
        Exchange.transcript_mapOk_iff.mp transcript
      obtain ⟨rfl, declines⟩ := declines_update addressed every performed
      exact ⟨result, rfl, declines⟩
  | upsert record =>
      obtain ⟨result, performed, rfl⟩ :=
        Exchange.transcript_mapOk_iff.mp transcript
      exact ⟨result, rfl, declines_upsert addressed every performed⟩
  | delete criteria =>
      cases addressed
      obtain ⟨result, performed, rfl⟩ :=
        Exchange.transcript_mapOk_iff.mp transcript
      exact ⟨result, rfl, declines_delete every performed⟩
  | updateField field value criteria =>
      cases addressed
      obtain ⟨result, performed, rfl⟩ :=
        Exchange.transcript_mapOk_iff.mp transcript
      exact ⟨result, rfl, declines_updateField every performed⟩
  | adjust adjustment field keys quantity =>
      cases addressed
      obtain ⟨result, performed, rfl⟩ :=
        Exchange.transcript_mapOk_iff.mp transcript
      exact ⟨result, rfl, declines_adjust every performed⟩
  | contains | containsRecord | getOne | getMany | count | getBytes | insert =>
      cases addressed

end TableHandle

end RecordSql
