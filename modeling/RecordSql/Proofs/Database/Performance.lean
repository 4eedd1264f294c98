import RecordSql.Database.Performance
import RecordSql.Proofs.Exchange.Transcript

/-!
# Runs of operations

What is sent in a run of several operations is what each of them sends,
one after another.
-/

namespace RecordSql.DatabaseCall

variable {calls : List DatabaseCall} {sendings : List Sending}
  {results : List (Except Failure DatabaseResult)}

/-- A table operation that counts rows takes place as its exchange does. -/
theorem transcript_of_affected (handle : TableHandle)
    (operation : TableOperation) {exchange : Exchange (Except Failure Nat)}
    {result : Except Failure Nat}
    (counts : handle.perform operation = exchange.mapOk .affected)
    (transcript : exchange.Transcript sendings result) :
    (perform ⟨handle.database, .table handle.table operation⟩).Transcript
      sendings ((result.map TableResult.affected).map .table) := by
  have performed : (handle.perform operation).Transcript sendings
      (result.map TableResult.affected) := by
    rw [counts]
    exact Exchange.transcript_mapOk_iff.mpr ⟨result, transcript, rfl⟩
  exact Exchange.transcript_mapOk_iff.mpr ⟨_, performed, rfl⟩

theorem transcript_performAll_iff :
    (performAll calls).Transcript sendings results ↔
      ∃ performances : List Performance,
        performances.map Performance.call = calls ∧
          performances.flatMap Performance.sendings = sendings ∧
            performances.map Performance.result = results := by
  induction calls generalizing sendings results with
  | nil =>
      constructor
      · intro transcript
        obtain ⟨rfl, rfl⟩ := Exchange.transcript_done_iff.mp transcript
        exact ⟨[], rfl, rfl, rfl⟩
      · rintro ⟨performances, noCalls, rfl, rfl⟩
        obtain rfl := List.map_eq_nil_iff.mp noCalls
        exact .done
  | cons call calls induction =>
      constructor
      · intro transcript
        obtain ⟨first, second, result, rfl, takesPlace, continued⟩ :=
          Exchange.transcript_bind_iff.mp transcript
        obtain ⟨results, others, rfl⟩ :=
          Exchange.transcript_map_iff.mp continued
        obtain ⟨performances, rfl, rfl, rfl⟩ := induction.mp others
        exact ⟨⟨call, first, result, takesPlace⟩ :: performances, rfl, rfl, rfl⟩
      · rintro ⟨performances, sameCalls, rfl, rfl⟩
        obtain ⟨performance, performances, rfl, rfl, rfl⟩ :=
          List.map_eq_cons_iff.mp sameCalls
        have others := induction.mpr ⟨performances, rfl, rfl, rfl⟩
        refine Exchange.transcript_bind_iff.mpr
          ⟨_, _, performance.result, rfl, performance.takesPlace, ?_⟩
        exact Exchange.transcript_map_iff.mpr ⟨_, others, rfl⟩

end RecordSql.DatabaseCall
