import RecordSql.Proofs.Exchange.Transcript
import RecordSql.Proofs.Outcome

/-!
# Exchanges of at most one statement

Most operations compose one statement and send it.  They end in four ways:
their input is refused and nothing is sent, nothing needs to be sent, the
statement is answered, or the driver reports an error, which becomes the
failure of the operation.
-/

namespace RecordSql

variable {α β : Type}

/-- An outcome whose failure, if it is one, is not the driver's. -/
def Failure.Refusing (outcome : Except Failure α) : Prop :=
  ∀ failure, outcome = .error failure → failure.isReported = false

namespace Failure

theorem refusing_ok (value : α) : Refusing (.ok value) := by
  intro failure failed
  cases failed

theorem refusing_error {failure : Failure}
    (unreported : failure.isReported = false) :
    Refusing (.error failure : Except Failure α) := by
  intro other failed
  cases failed
  exact unreported

theorem refusing_lift (outcome : Except Fault α) : Refusing (lift outcome) := by
  intro failure failed
  cases outcome with
  | ok value => cases failed
  | error fault =>
      cases failed
      cases fault <;> rfl

theorem Refusing.bind {outcome : Except Failure α} {next : α → Except Failure β}
    (first : Refusing outcome) (second : ∀ value, Refusing (next value)) :
    Refusing (outcome >>= next) := by
  intro failure failed
  cases outcome with
  | error refusal =>
      cases failed
      exact first _ rfl
  | ok value => exact second value failure failed

theorem Refusing.map {outcome : Except Failure α} (refusing : Refusing outcome)
    (change : α → β) : Refusing (outcome.map change) := by
  cases outcome with
  | ok value => exact refusing_ok _
  | error failure => exact refusing_error (refusing failure rfl)

/-- What the driver reports keeps its error and its code. -/
theorem ofDriver_reports (dialect : Dialect) (translated : Bool)
    (error : DriverError) :
    (ofDriver dialect translated error).isReported = true ∧
      (ofDriver dialect translated error).source? = some error ∧
        (ofDriver dialect translated error).code? = error.code := by
  unfold ofDriver
  cases known : error.code.bind dialect.code? with
  | none => exact ⟨rfl, rfl, rfl⟩
  | some entry =>
      obtain ⟨code, given, found⟩ := Option.bind_eq_some_iff.mp known
      have sameCode : entry.code = code := by
        have equal := List.find?_some found
        simpa using equal
      cases violation : entry.violation with
      | none => simp [violation, given, sameCode, isReported, source?, code?]
      | some violated =>
          simp [violation, given, sameCode, isReported, source?, code?]

end Failure

/-- How an exchange that sends at most one statement may end. -/
inductive Ending (database : Database) :
    List Sending → Except Failure α → Prop where
  | refused {failure : Failure} :
      failure.isReported = false → Ending database [] (.error failure)
  | spared (value : α) : Ending database [] (.ok value)
  | answered {sending : Sending} (value : α) :
      sending.error? = none → Ending database [sending] (.ok value)
  | reported {sending : Sending} {error : DriverError} :
      sending.error? = some error →
        Ending database [sending] (.error (database.failure error))

/-- However it is answered, the exchange ends in one of the ways above. -/
def Exchange.Orderly (database : Database)
    (exchange : Exchange (Except Failure α)) : Prop :=
  ∀ ⦃sendings result⦄, exchange.Transcript sendings result →
    Ending database sendings result

variable {database : Database} {sendings : List Sending}
  {result : Except Failure α}

namespace Ending

theorem map (change : α → β) (ending : Ending database sendings result) :
    Ending database sendings (result.map change) := by
  cases ending with
  | refused unreported => exact .refused unreported
  | spared value => exact .spared (change value)
  | answered value answered => exact .answered (change value) answered
  | reported reported => exact .reported reported

/-- Input that is refused is refused before anything is sent. -/
theorem eq_nil_of_refused {failure : Failure}
    (ending : Ending database sendings result)
    (failed : result = .error failure)
    (unreported : failure.isReported = false) : sendings = [] := by
  cases ending with
  | refused _ => rfl
  | spared _ => rfl
  | answered _ _ => cases failed
  | @reported _ error _ =>
      cases failed
      rw [Database.failure, (Failure.ofDriver_reports _ _ error).1]
        at unreported
      cases unreported

theorem length_le_one (ending : Ending database sendings result) :
    sendings.length ≤ 1 := by
  cases ending <;> simp

end Ending

namespace Exchange

theorem orderly_refusal {failure : Failure}
    (unreported : failure.isReported = false) :
    (done (.error failure) : Exchange (Except Failure α)).Orderly database := by
  intro sendings result transcript
  obtain ⟨rfl, rfl⟩ := transcript_done_iff.mp transcript
  exact .refused unreported

theorem orderly_done (value : α) : (done (.ok value)).Orderly database := by
  intro sendings result transcript
  obtain ⟨rfl, rfl⟩ := transcript_done_iff.mp transcript
  exact .spared value

theorem Orderly.mapOk {exchange : Exchange (Except Failure α)} (change : α → β)
    (orderly : exchange.Orderly database) :
    (exchange.mapOk change).Orderly database := by
  intro sendings result transcript
  obtain ⟨middle, inner, rfl⟩ := transcript_mapOk_iff.mp transcript
  exact (orderly inner).map change

end Exchange

namespace Database

variable {composed : Except Failure Statement}

theorem orderly_execute (refusing : Failure.Refusing composed) :
    (database.execute composed).Orderly database := by
  intro sendings result transcript
  rcases transcript_execute_iff.mp transcript with
    ⟨failure, refused, rfl, rfl⟩ | ⟨statement, answer, _, rfl, rfl⟩
  · exact .refused (refusing failure refused)
  · cases answer with
    | ok rows => exact .answered rows rfl
    | error error => exact .reported rfl

theorem orderly_fetch (refusing : Failure.Refusing composed) :
    (database.fetch composed).Orderly database := by
  intro sendings result transcript
  rcases transcript_fetch_iff.mp transcript with
    ⟨failure, refused, rfl, rfl⟩ | ⟨statement, answer, _, rfl, rfl⟩
  · exact .refused (refusing failure refused)
  · cases answer with
    | ok rows => exact .answered (rows.map database.record) rfl
    | error error => exact .reported rfl

end Database

end RecordSql
