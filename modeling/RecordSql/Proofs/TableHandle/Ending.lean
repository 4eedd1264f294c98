import RecordSql.Proofs.Exchange.Ending
import RecordSql.Proofs.TableHandle.Existence
import RecordSql.TableHandle.Operation

/-!
# How table operations end

Every table operation is an exchange of at most one statement, save that an
upsert has an existence test before it and that a best-effort insert may
pass over an error.
-/

namespace RecordSql.TableHandle

variable {handle : TableHandle}

theorem refusing_column (field : String) :
    Failure.Refusing (handle.column field) := by
  intro failure failed
  unfold column at failed
  split at failed
  · cases failed
  · cases failed
    rfl

theorem refusing_keysOf (record : Record) :
    Failure.Refusing (handle.keysOf record) := by
  intro failure failed
  simp only [keysOf] at failed
  split at failed
  · cases failed
    rfl
  · cases failed

theorem refusing_restriction (criteria : Criteria) :
    Failure.Refusing (handle.restriction criteria) := by
  apply (Failure.refusing_lift _).bind
  intro predicate
  split
  · exact Failure.refusing_error rfl
  · exact Failure.refusing_ok predicate

theorem refusing_quantityParam (field : String) (quantity : Value) :
    Failure.Refusing (quantityParam field quantity) := by
  intro failure failed
  unfold quantityParam at failed
  split at failed
  · cases failed
  · split at failed
    · cases failed
    · cases failed
      rfl
  · cases failed
    rfl

theorem refusing_updatePredicate (record : Record) (filter : Option Filter) :
    Failure.Refusing (handle.updatePredicate record filter) := by
  cases filter with
  | none => exact Failure.refusing_lift _
  | some filter => exact refusing_restriction (.filter filter)

theorem orderly_getOne (keys : Keys) (fields : List String) :
    (handle.getOne keys fields).Orderly handle.database :=
  (Database.orderly_fetch (Failure.refusing_lift _)).mapOk _

theorem orderly_contains (keys : Keys) :
    (handle.contains keys).Orderly handle.database := by
  unfold contains
  split
  · exact Exchange.orderly_refusal rfl
  · exact (orderly_getOne keys _).mapOk _

theorem orderly_containsRecord (record : Record) :
    (handle.containsRecord record).Orderly handle.database := by
  unfold containsRecord
  split
  · next failure refused =>
      exact Exchange.orderly_refusal (refusing_keysOf record failure refused)
  · exact orderly_contains _

theorem orderly_getMany (criteria : Criteria) (fields : List String) :
    (handle.getMany criteria fields).Orderly handle.database :=
  Database.orderly_fetch (Failure.refusing_lift _)

theorem orderly_count (criteria : Criteria) :
    (handle.count criteria).Orderly handle.database :=
  (Database.orderly_fetch (Failure.refusing_lift _)).mapOk _

theorem orderly_getBytes (keys : Keys) (field : String) :
    (handle.getBytes keys field).Orderly handle.database := by
  unfold getBytes
  split
  · next failure refused =>
      exact Exchange.orderly_refusal (refusing_column field failure refused)
  · exact (orderly_getOne keys [field]).mapOk _

theorem orderly_updateWhere (assignments : List Assignment)
    {predicate : Except Failure Statement}
    (refusing : Failure.Refusing predicate) :
    (handle.updateWhere assignments predicate).Orderly handle.database := by
  apply Database.orderly_execute
  apply refusing.bind
  intro predicate
  exact Failure.refusing_lift _

theorem orderly_update (record : Record) (filter : Option Filter) :
    (handle.update record filter).Orderly handle.database := by
  unfold update
  split
  · exact Exchange.orderly_done 0
  · exact orderly_updateWhere _ (refusing_updatePredicate record filter)

theorem orderly_delete (criteria : Criteria) :
    (handle.delete criteria).Orderly handle.database := by
  apply Database.orderly_execute
  apply (refusing_restriction criteria).bind
  intro predicate
  exact Failure.refusing_ok _

theorem orderly_updateField (field : String) (value : Value)
    (criteria : Criteria) :
    (handle.updateField field value criteria).Orderly handle.database := by
  unfold updateField
  split
  · next failure refused =>
      exact Exchange.orderly_refusal (refusing_column field failure refused)
  · exact orderly_updateWhere _ (refusing_restriction criteria)

theorem orderly_adjust (adjustment : Adjustment) (field : String) (keys : Keys)
    (quantity : Value) :
    (handle.adjust adjustment field keys quantity).Orderly handle.database := by
  apply Database.orderly_execute
  apply (refusing_column field).bind
  intro _
  apply (refusing_quantityParam field quantity).bind
  intro _
  apply Failure.Refusing.bind (Failure.refusing_lift _)
  intro _
  exact Failure.refusing_ok _

/-- Passing over changes nothing but what the driver reports. -/
private theorem passOver_cases (outcome : Except Failure Nat) :
    handle.passOver outcome = outcome ∨
      ∃ failure, outcome = .error failure ∧ failure.isReported = true ∧
        handle.passOver outcome = .ok 0 := by
  unfold passOver
  split
  · split
    · exact .inr ⟨_, rfl, rfl, rfl⟩
    · exact .inl rfl
  · exact .inl rfl

theorem ending_insert {record : Record} {ignore : Bool}
    {sendings : List Sending} {result : Except Failure Nat}
    (transcript : (handle.insert record ignore).Transcript sendings result) :
    Ending handle.database sendings result ∨
      ∃ statement error, ignore = true ∧
        sendings = [.execute statement (.error error)] ∧
        result = .ok 0 := by
  obtain ⟨outcome, sent, rfl⟩ := Exchange.transcript_map_iff.mp transcript
  have ending := Database.orderly_execute (Failure.refusing_lift _) sent
  cases ignore with
  | false => exact .inl ending
  | true =>
      rcases handle.passOver_cases outcome with
        unchanged | ⟨failure, rfl, reported, passed⟩
      · left
        simpa [unchanged] using ending
      · right
        rcases Database.transcript_execute_iff.mp sent with
          ⟨refusal, refused, _, same⟩ | ⟨statement, answer, _, rfl, same⟩
        · have unreported := Failure.refusing_lift _ refusal refused
          rw [← Except.error.inj same, reported] at unreported
          cases unreported
        · cases answer with
          | ok rows => cases same
          | error error => exact ⟨statement, error, rfl, rfl, by simp [passed]⟩

/-- What an operation sends before the statement that it ends with. -/
inductive Precedes (handle : TableHandle) :
    TableOperation → List Sending → Prop where
  | nothing (operation : TableOperation) : Precedes handle operation []
  | existence {record : Record} {query : Statement} (rows : List Row) :
      handle.existenceQuery record = .ok query →
        Precedes handle (.upsert record) [.fetch query (.ok rows)]

/-- An operation ends like an exchange of one statement, or passes over the
error of its insert. -/
def Concludes (handle : TableHandle) (operation : TableOperation)
    (sendings : List Sending) (result : Except Failure TableResult) : Prop :=
  Ending handle.database sendings result ∨
    ∃ record statement error, operation = .insert record true ∧
      sendings = [.execute statement (.error error)] ∧
      result = .ok (.affected 0)

private theorem concludes_of_orderly {α : Type} {operation : TableOperation}
    {exchange : Exchange (Except Failure α)} {sendings : List Sending}
    {change : α → TableResult} {result : Except Failure TableResult}
    (orderly : exchange.Orderly handle.database)
    (transcript : (exchange.mapOk change).Transcript sendings result) :
    ∃ preceding rest, sendings = preceding ++ rest ∧
      handle.Precedes operation preceding ∧
      handle.Concludes operation rest result :=
  ⟨[], sendings, rfl, .nothing operation,
    .inl (orderly.mapOk change transcript)⟩

/-- Every table operation sends at most its existence query and
then one statement. -/
theorem concludes_perform {operation : TableOperation} {sendings : List Sending}
    {result : Except Failure TableResult}
    (transcript : (handle.perform operation).Transcript sendings result) :
    ∃ preceding rest, sendings = preceding ++ rest ∧
      handle.Precedes operation preceding ∧
      handle.Concludes operation rest result := by
  cases operation with
  | contains keys =>
      exact concludes_of_orderly (orderly_contains keys) transcript
  | containsRecord record =>
      exact concludes_of_orderly (orderly_containsRecord record) transcript
  | getOne keys fields =>
      exact concludes_of_orderly (orderly_getOne keys fields) transcript
  | getMany criteria fields =>
      exact concludes_of_orderly (orderly_getMany criteria fields) transcript
  | count criteria =>
      exact concludes_of_orderly (orderly_count criteria) transcript
  | getBytes keys field =>
      exact concludes_of_orderly (orderly_getBytes keys field) transcript
  | update record filter =>
      exact concludes_of_orderly (orderly_update record filter) transcript
  | delete criteria =>
      exact concludes_of_orderly (orderly_delete criteria) transcript
  | updateField field value criteria =>
      exact concludes_of_orderly (orderly_updateField field value criteria)
        transcript
  | adjust adjustment field keys quantity =>
      exact concludes_of_orderly (orderly_adjust adjustment field keys quantity)
        transcript
  | insert record ignore =>
      obtain ⟨outcome, inserted, rfl⟩ :=
        Exchange.transcript_mapOk_iff.mp transcript
      refine ⟨[], sendings, rfl, .nothing _, ?_⟩
      rcases ending_insert inserted with
        ending | ⟨statement, error, rfl, rfl, rfl⟩
      · exact .inl (ending.map TableResult.affected)
      · exact .inr ⟨record, statement, error, rfl, rfl, rfl⟩
  | upsert record =>
      obtain ⟨outcome, upserted, rfl⟩ :=
        Exchange.transcript_mapOk_iff.mp transcript
      rcases transcript_upsert_iff.mp upserted with
        ⟨failure, tested, rfl⟩ | ⟨query, rows, rest, composed, rfl, written⟩
      · have ending := orderly_containsRecord record tested
        refine ⟨[], sendings, rfl, .nothing _, .inl ?_⟩
        cases ending with
        | refused unreported => exact .refused unreported
        | reported reported => exact .reported reported
      · refine ⟨[.fetch query (.ok rows)], rest, rfl,
          .existence rows composed, .inl ?_⟩
        split at written
        · rcases ending_insert written with ending | ⟨_, _, ignoring, _⟩
          · exact ending.map TableResult.affected
          · cases ignoring
        · exact (orderly_update record none written).map TableResult.affected

end RecordSql.TableHandle
