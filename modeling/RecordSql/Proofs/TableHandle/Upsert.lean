import RecordSql.Proofs.Mutation
import RecordSql.Proofs.Predicate.Keys
import RecordSql.Proofs.TableHandle.Existence
import RecordSql.Proofs.TableHandle.Reading
import RecordSql.TableHandle.Writing

/-!
# What an upsert updates

An upsert looks a record up by its whole primary key, where an absent key field
counts as null, and updates by the key fields that the record has.  The two
predicates agree only if the record has them all.
-/

namespace RecordSql.TableHandle

variable {handle : TableHandle} {record : Record} {keys : Keys}

/-- The key fields with values, absent ones as null. -/
private def keyFields (handle : TableHandle) (record : Record) :
    List (String × Value) :=
  handle.table.primaryKeys.map fun column =>
    (column.name, .ofOption (record.get? column.name))

private theorem keys_eq_ofList (known : handle.keysOf record = .ok keys) :
    keys = .ofList (handle.keyFields record) := by
  simp only [keysOf] at known
  split at known
  · cases known
  · exact (Except.ok.inj known).symm

theorem presentKeys_eq_only (known : handle.keysOf record = .ok keys) :
    handle.presentKeys record = keys.only record.has := by
  rw [keys_eq_ofList known, Keys.only_ofList, presentKeys, keyFields,
    Table.assignments, Table.primaryKeys]
  congr 1
  induction handle.table.columns with
  | nil => rfl
  | cons column columns induction =>
      cases value : record.get? column.name with
      | none =>
          have absent : record.has column.name = false := by
            simp [Record.has, value]
          cases key : column.primaryKey <;> simp [key, value, absent, induction]
      | some present =>
          have has : record.has column.name = true := by
            simp [Record.has, value]
          cases key : column.primaryKey <;>
            simp [key, value, has, Value.ofOption, induction]

private theorem isNull_of_absent (known : handle.keysOf record = .ok keys) :
    ∀ entry ∈ keys.entries, record.has entry.1 = false →
      entry.2.isNull = true := by
  intro entry member absent
  rw [keys_eq_ofList known] at member
  obtain ⟨column, _, rfl⟩ := List.mem_map.mp (Keys.mem_of_mem_ofList member)
  have none : record.get? column.name = none := by
    simpa [Record.has] using absent
  simp only [none, Value.ofOption]
  rfl

private theorem forall_keys_has_iff (known : handle.keysOf record = .ok keys) :
    (∀ entry ∈ keys.entries, record.has entry.1 = true) ↔
      ∀ column ∈ handle.table.primaryKeys, record.has column.name = true := by
  rw [keys_eq_ofList known,
    Keys.forall_names_ofList fun name => record.has name = true, keyFields]
  exact List.forall_mem_map

variable {sendings : List Sending} {statement : Statement}
  {answer : WriteAnswer}

/-- An existence test that has an answer looked up the whole primary key. -/
private theorem lookup_of_containsRecord {found : Bool}
    (transcript :
      (handle.containsRecord record).Transcript sendings (.ok found)) :
    ∃ keys looked rows, handle.keysOf record = .ok keys ∧
      handle.keyPredicate keys = .ok looked ∧
      sendings = [.fetch (handle.lookup keys looked) (.ok rows)] := by
  rcases transcript_containsRecord_iff.mp transcript with
    ⟨_, _, _, refused⟩ | ⟨query, answer, composed, rfl, answered⟩
  · cases refused
  · obtain ⟨keys, known, looking⟩ := Outcome.bind_eq_ok_iff.mp composed
    obtain ⟨looked, predicate, built⟩ := Outcome.bind_eq_ok_iff.mp looking
    cases built
    cases answer with
    | error error => cases answered
    | ok rows => exact ⟨keys, looked, rows, known, predicate, rfl⟩

theorem executable_of_insert {ignore : Bool} {result : Except Failure Nat}
    (transcript : (handle.insert record ignore).Transcript sendings result)
    (sent : .execute statement answer ∈ sendings) :
    ∃ rest,
      statement.executable handle.database.dialect = "INSERT" ++ rest := by
  obtain ⟨_, transcript, _⟩ := Exchange.transcript_map_iff.mp transcript
  obtain ⟨composed, _⟩ := Database.composed_of_sent transcript sent
  exact Composer.executable_insert _ (Failure.lift_eq_ok_iff.mp composed)

private theorem addressed_of_update {result : Except Failure Nat}
    (transcript : (handle.update record none).Transcript sendings result)
    (sent : .execute statement answer ∈ sendings) :
    ∃ addressed,
      handle.keyPredicate (handle.presentKeys record) = .ok addressed ∧
        handle.composer.update handle.name (handle.changes record) addressed =
          .ok statement ∧
          sendings = [.execute statement answer] := by
  unfold update at transcript
  split at transcript
  · cases transcript
    cases sent
  · obtain ⟨composed, alone⟩ := Database.composed_of_sent transcript sent
    obtain ⟨addressed, predicate, updated⟩ := Outcome.bind_eq_ok_iff.mp composed
    exact ⟨addressed, predicate, Failure.lift_eq_ok_iff.mp updated, alone⟩

/-- An upsert that sends an update sends it right after the existence test.
Both have the same parameters in their predicates, and the same text there if
and only if the record has every field of the primary key. -/
theorem upsert_update_addresses_lookup_iff (handle : TableHandle)
    (record : Record) {result : Except Failure Nat} {rest : String}
    (transcript : (handle.upsert record).Transcript sendings result)
    (sent : .execute statement answer ∈ sendings)
    (isUpdate :
      statement.executable handle.database.dialect = "UPDATE" ++ rest) :
    ∃ keys rows looked addressed,
      sendings =
          [.fetch (handle.lookup keys looked) (.ok rows),
            .execute statement answer] ∧
        handle.composer.update handle.name (handle.changes record) addressed =
          .ok statement ∧
          addressed.params = looked.params ∧
            (addressed.literal handle.database.dialect =
                looked.literal handle.database.dialect ↔
              ∀ column ∈ handle.table.primaryKeys,
                record.has column.name = true) := by
  rcases Exchange.transcript_andThen_iff.mp transcript with
    ⟨failure, testing, _⟩ | ⟨first, second, found, rfl, testing, writing⟩
  · cases reads_containsRecord record testing _ sent
  obtain ⟨keys, looked, rows, known, predicate, rfl⟩ :=
    lookup_of_containsRecord testing
  replace sent : .execute statement answer ∈ second := by simpa using sent
  cases found with
  | false =>
      obtain ⟨other, isInsert⟩ := executable_of_insert writing sent
      have clash :=
        congrArg (fun text => text.toList.head?) (isInsert.symm.trans isUpdate)
      simp at clash
  | true =>
      obtain ⟨addressed, present, updated, rfl⟩ :=
        addressed_of_update writing sent
      rw [presentKeys_eq_only known] at present
      obtain ⟨sameParams, sameText⟩ := Composer.keys_only
        handle.database.dialect (Failure.lift_eq_ok_iff.mp predicate)
        (Failure.lift_eq_ok_iff.mp present) (isNull_of_absent known)
      exact ⟨keys, rows, looked, addressed, rfl, updated, sameParams,
        sameText.trans (forall_keys_has_iff known)⟩

/-- A table of order lines, whose key has two fields. -/
def orderLines : TableHandle :=
  ⟨⟨{}⟩, .ofDeclared "lines" [⟨"order_id", "int", false, true, none⟩,
    ⟨"qty", "int", true, false, none⟩, ⟨"line", "int", false, true, none⟩]⟩

private theorem transcript_upsert_orderLines {looked addressed : Statement}
    (known : orderLines.keysOf record = .ok keys)
    (present : keys.isEmpty = false)
    (selected : orderLines.composer.select (some orderLines.table) "lines"
          (keys.entries.map Prod.fst) (.keys keys) (some ⟨1, 0⟩) =
        .ok (orderLines.lookup keys looked))
    (changed : (orderLines.changes record).isEmpty = false)
    (predicate :
      orderLines.keyPredicate (orderLines.presentKeys record) = .ok addressed)
    (updated :
      orderLines.composer.update "lines" (orderLines.changes record) addressed =
        .ok statement) :
    (orderLines.upsert record).Transcript
      [.fetch (orderLines.lookup keys looked) (.ok [[]]),
        .execute statement (.ok 1)] (.ok 1) := by
  have tests : (orderLines.containsRecord record).Transcript
      [.fetch (orderLines.lookup keys looked) (.ok [[]])] (.ok true) := by
    rw [containsRecord, known]
    simp only [contains, present]
    refine Exchange.transcript_mapOk_iff.mpr ⟨.ok (some .empty), ?_, rfl⟩
    refine Exchange.transcript_mapOk_iff.mpr ⟨.ok [.empty], ?_, rfl⟩
    exact Database.transcript_fetch_iff.mpr
      (.inr ⟨_, .ok [[]], Failure.lift_eq_ok_iff.mpr selected, rfl, rfl⟩)
  refine Exchange.transcript_andThen_iff.mpr (.inr ⟨_, _, true, rfl, tests, ?_⟩)
  simp only [if_true, update, changed]
  refine Database.transcript_execute_iff.mpr
    (.inr ⟨statement, .ok 1, ?_, rfl, rfl⟩)
  exact Outcome.bind_eq_ok_iff.mpr
    ⟨addressed, predicate, Failure.lift_eq_ok_iff.mpr updated⟩

/-- A line that is given in full is looked up and updated by the
same predicate. -/
theorem upsert_update_addresses_lookup_orderLines :
    let record := Record.ofList
      [("order_id", .integer 1), ("line", .integer 2), ("qty", .integer 5)]
    let found : Statement := .ofPieces
      [.text "order_id = ", .param (.integer 1), .text " AND line = ",
        .param (.integer 2)]
    let update : Statement := .ofPieces
      [.text "UPDATE lines SET qty = ", .param (.integer 5),
        .text " WHERE order_id = ", .param (.integer 1), .text " AND line = ",
        .param (.integer 2)]
    let select := orderLines.lookup
      (.ofList [("order_id", .integer 1), ("line", .integer 2)]) found
    (orderLines.upsert record).Transcript
        [.fetch select (.ok [[]]), .execute update (.ok 1)] (.ok 1) ∧
      ∃ keys looked addressed, select = orderLines.lookup keys looked ∧
        orderLines.composer.update "lines"
          (orderLines.changes record) addressed = .ok update ∧
          addressed.literal .sqlite = looked.literal .sqlite := by
  intro record found update select
  have predicate : orderLines.keyPredicate (orderLines.presentKeys record) =
      .ok found := by
    decide +kernel
  have transcript : (orderLines.upsert record).Transcript
      [.fetch select (.ok [[]]), .execute update (.ok 1)] (.ok 1) :=
    transcript_upsert_orderLines (by decide +kernel) rfl (by decide +kernel)
      (by decide +kernel) predicate (by decide +kernel)
  have isUpdate : update.executable .sqlite =
      "UPDATE" ++ " lines SET qty = ? WHERE order_id = ? AND line = ?" := by
    decide +kernel
  obtain ⟨keys, rows, looked, addressed, sent, updated, _, sameText⟩ :=
    upsert_update_addresses_lookup_iff orderLines record transcript
      (List.mem_cons_of_mem _ List.mem_cons_self) isUpdate
  have given : ∀ column ∈ orderLines.table.primaryKeys,
      record.has column.name = true := by
    decide +kernel
  refine ⟨transcript, keys, looked, addressed, ?_, updated, sameText.mpr given⟩
  exact (Sending.fetch.inj (List.cons.inj sent).1).1

/-- The order with the line absent is looked up, but all lines of the
order are updated. -/
theorem upsert_updates_other_lines :
    let record := Record.ofList [("order_id", .integer 1), ("qty", .integer 5)]
    let keys : Keys := .ofList [("order_id", .integer 1), ("line", .null)]
    let looked : Statement :=
      .ofPieces [.text "order_id = ", .param (.integer 1),
        .text " AND line IS NULL"]
    let addressed : Statement :=
      .ofPieces [.text "order_id = ", .param (.integer 1)]
    let update : Statement := .ofPieces
      [.text "UPDATE lines SET qty = ", .param (.integer 5),
        .text " WHERE order_id = ", .param (.integer 1)]
    (orderLines.upsert record).Transcript
        [.fetch (orderLines.lookup keys looked) (.ok [[]]),
          .execute update (.ok 1)] (.ok 1) ∧
      orderLines.composer.update "lines" (orderLines.changes record) addressed =
        .ok update ∧
        addressed.literal .sqlite ≠ looked.literal .sqlite := by
  intro record keys looked addressed update
  have updated :
      orderLines.composer.update "lines" (orderLines.changes record) addressed =
        .ok update := by decide +kernel
  refine ⟨?_, updated, by decide⟩
  exact transcript_upsert_orderLines (by decide +kernel) rfl (by decide +kernel)
    (by decide +kernel) (by decide +kernel) updated

end RecordSql.TableHandle
