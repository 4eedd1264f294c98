import RecordSql.Database.Performance
import RecordSql.Proofs.TableHandle.Ending

/-!
# How database operations end

A query and the request for an id are exchanges of at most one statement, so
what is said of table operations holds of all operations of a database.
-/

namespace RecordSql

theorem Database.orderly_query (database : Database) (text : String)
    (criteria : Criteria) : (database.query text criteria).Orderly database :=
  Database.orderly_fetch (Failure.refusing_lift _)

theorem Database.orderly_nextId (database : Database) (sequence : String) :
    (database.nextId sequence).Orderly database := by
  unfold Database.nextId
  split
  · exact Exchange.orderly_done none
  · exact (Database.orderly_fetch (Failure.refusing_ok _)).mapOk _

namespace Performance

/-- What is sent before the statement that an operation ends with. -/
inductive Precedes (performance : Performance) : List Sending → Prop where
  | nothing : Precedes performance []
  | existence {table : Table} {record : Record} {query : Statement}
      (rows : List Row) :
      performance.call.operation = .table table (.upsert record) →
        TableHandle.existenceQuery ⟨performance.call.database, table⟩ record =
          .ok query →
          Precedes performance [.fetch query (.ok rows)]

/-- An insert that may pass over errors has passed over one. -/
def PassesOver (performance : Performance) (sendings : List Sending) : Prop :=
  ∃ table record statement error,
    performance.call.operation = .table table (.insert record true) ∧
      sendings = [.execute statement (.error error)] ∧
        performance.result = .ok (.table (.affected 0))

theorem concludes (performance : Performance) :
    ∃ preceding rest, performance.sendings = preceding ++ rest ∧
      performance.Precedes preceding ∧
        (Ending performance.call.database rest performance.result ∨
          performance.PassesOver rest) := by
  obtain ⟨⟨database, operation⟩, sendings, result, takesPlace⟩ := performance
  cases operation with
  | query text criteria =>
      have ending := (database.orderly_query text criteria).mapOk _ takesPlace
      exact ⟨[], sendings, rfl, .nothing, .inl ending⟩
  | nextId sequence =>
      have ending := (database.orderly_nextId sequence).mapOk _ takesPlace
      exact ⟨[], sendings, rfl, .nothing, .inl ending⟩
  | table table operation =>
      obtain ⟨outcome, performed, rfl⟩ :=
        Exchange.transcript_mapOk_iff.mp takesPlace
      obtain ⟨preceding, rest, rfl, precedes, concludes⟩ :=
        TableHandle.concludes_perform performed
      refine ⟨preceding, rest, rfl, ?_, ?_⟩
      · cases precedes with
        | nothing => exact .nothing
        | existence rows composed => exact .existence rows rfl composed
      · rcases concludes with ending | ⟨record, statement, error, rfl, rfl, rfl⟩
        · exact .inl (ending.map DatabaseResult.table)
        · exact .inr ⟨table, record, statement, error, rfl, rfl, rfl⟩

end Performance

end RecordSql
