import RecordSql.Proofs.Database.Performance
import RecordSql.Proofs.TableHandle.Restriction

/-!
# Runs that restrict what they write

However many operations are performed and however they are answered, no
statement of a run updates or deletes without a condition.
-/

namespace RecordSql

namespace Performance

/-- It is this operation on this table that took place. -/
def Is (performance : Performance) (handle : TableHandle)
    (operation : TableOperation) : Prop :=
  performance.call = ⟨handle.database, .table handle.table operation⟩

/-- An operation updates and deletes only by its criteria. -/
structure Restricted (performance : Performance) : Prop where
  /-- What is executed inserts, or is restricted by the criteria
  of its operation. -/
  writes : ∀ statement answer,
    .execute statement answer ∈ performance.sendings →
      (∃ rest,
          statement.executable performance.call.database.dialect =
            "INSERT" ++ rest) ∨
        ∃ handle operation criteria, performance.Is handle operation ∧
          handle.criteria? operation = some criteria ∧
          handle.Heeds criteria statement
  /-- A record is addressed by the fields of the primary key that it has. -/
  keys : ∀ handle operation record, performance.Is handle operation →
    operation = .update record none ∨ operation = .upsert record →
      ∃ keys : Keys, handle.criteria? operation = some (.keys keys) ∧
        ∀ name value, (name, value) ∈ keys.entries ↔
          record.get? name = some value ∧
            ∃ column ∈ handle.table.primaryKeys, column.name = name
  /-- By criteria that select every record nothing is updated or deleted. -/
  declines : ∀ handle operation criteria, performance.Is handle operation →
    handle.criteria? operation = some criteria → criteria.selectsAll = true →
      ∃ result : Except Failure Nat,
        performance.result = result.map (fun rows => .table (.affected rows)) ∧
          handle.Declines operation performance.sendings result

private theorem restricted (performance : Performance) :
    performance.Restricted := by
  constructor
  case writes =>
    intro statement answer sent
    obtain ⟨⟨database, operation⟩, sendings, result, takesPlace⟩ := performance
    cases operation with
    | query text criteria =>
        cases (Database.reads_fetch _).mapOk _ takesPlace _ sent
    | nextId sequence =>
        cases (Database.reads_nextId sequence).mapOk _ takesPlace _ sent
    | table table operation =>
        obtain ⟨outcome, performed, _⟩ :=
          Exchange.transcript_mapOk_iff.mp takesPlace
        rcases TableHandle.heeds_of_perform performed sent with
          inserts | ⟨criteria, addressed, heeds⟩
        · exact .inl inserts
        · exact .inr ⟨⟨database, table⟩, operation, criteria, rfl,
            addressed, heeds⟩
  case keys =>
    intro handle operation record _ addressed
    refine ⟨handle.presentKeys record, ?_, fun name value =>
      TableHandle.mem_presentKeys_iff⟩
    rcases addressed with rfl | rfl <;> rfl
  case declines =>
    intro handle operation criteria same addressed every
    obtain ⟨call, sendings, outcome, takesPlace⟩ := performance
    cases same
    obtain ⟨outcome, performed, rfl⟩ :=
      Exchange.transcript_mapOk_iff.mp takesPlace
    obtain ⟨result, rfl, declines⟩ :=
      TableHandle.declines_perform addressed every performed
    refine ⟨result, ?_, declines⟩
    cases result <;> rfl

end Performance

namespace DatabaseCall

/-- In a run of operations every single one updates and deletes only by its
criteria, whatever the criteria are and however the statements are answered. -/
theorem restricted_of_performAll {calls : List DatabaseCall}
    {sendings : List Sending} {results : List (Except Failure DatabaseResult)}
    (transcript : (performAll calls).Transcript sendings results) :
    ∃ performances : List Performance,
      performances.map Performance.call = calls ∧
        performances.flatMap Performance.sendings = sendings ∧
          performances.map Performance.result = results ∧
            ∀ performance ∈ performances, performance.Restricted := by
  obtain ⟨performances, sameCalls, sameSendings, sameResults⟩ :=
    transcript_performAll_iff.mp transcript
  refine ⟨performances, sameCalls, sameSendings, sameResults, ?_⟩
  intro performance _
  exact performance.restricted

/-- The lines of one order are deleted, and then all lines are to be. -/
theorem restricted_of_performAll_orderLines :
    let lines := TableHandle.orderLines
    let calls : List DatabaseCall :=
      [⟨lines.database, .table lines.table
        (.delete (.keys (.ofList [("order_id", .integer 1)])))⟩,
        ⟨lines.database, .table lines.table (.delete .all)⟩]
    let delete : Statement :=
      .ofPieces [.text "DELETE FROM lines WHERE order_id = ",
        .param (.integer 1)]
    let results : List (Except Failure DatabaseResult) :=
      [.ok (.table (.affected 3)), .error .missingFilter]
    (performAll calls).Transcript [.execute delete (.ok 3)] results ∧
      ∃ performances : List Performance,
        performances.map Performance.call = calls ∧
          performances.flatMap Performance.sendings =
            [.execute delete (.ok 3)] ∧
            performances.map Performance.result = results ∧
              ∀ performance ∈ performances, performance.Restricted := by
  intro lines calls delete results
  have deletes :
      (lines.delete (.keys (.ofList [("order_id", .integer 1)]))).Transcript
        [.execute delete (.ok 3)] (.ok 3) :=
    Database.transcript_execute_iff.mpr
      (.inr ⟨delete, .ok 3, by decide +kernel, rfl, rfl⟩)
  have refuses : (lines.delete .all).Transcript [] (.error .missingFilter) :=
    Database.transcript_execute_iff.mpr (.inl ⟨.missingFilter, rfl, rfl, rfl⟩)
  have transcript :
      (performAll calls).Transcript [.execute delete (.ok 3)] results :=
    transcript_performAll_iff.mpr
      ⟨[⟨_, _, _, transcript_of_affected lines (.delete _) rfl deletes⟩,
        ⟨_, _, _, transcript_of_affected lines (.delete .all) rfl refuses⟩],
        rfl, rfl, rfl⟩
  exact ⟨transcript, restricted_of_performAll transcript⟩

end DatabaseCall

end RecordSql
