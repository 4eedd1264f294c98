import RecordSql.Proofs.Exchange.Transcript
import RecordSql.Proofs.Outcome
import RecordSql.Proofs.Statement.Composition
import RecordSql.TableHandle.Writing

/-!
# The existence test of an upsert

An upsert sends one query to find out whether the record is there, and
goes on by the answer.
-/

namespace RecordSql.TableHandle

variable {handle : TableHandle}

/-- The query of an existence test by a predicate. -/
def lookup (handle : TableHandle) (keys : Keys) (predicate : Statement) :
    Statement :=
  (Statement.ofSql
    (handle.composer.selectHead handle.name (keys.entries.map Prod.fst)
      (some ⟨1, 0⟩)) ++ predicate.whereClause).sql
    ((handle.database.dialect.pageSuffix? ⟨1, 0⟩ false).getD "")

/-- The query by which an upsert looks a record up. -/
def existenceQuery (handle : TableHandle) (record : Record) :
    Except Failure Statement := do
  let keys ← handle.keysOf record
  let looked ← handle.keyPredicate keys
  pure (handle.lookup keys looked)

private theorem lift_select_keys (keys : Keys) :
    Failure.lift (handle.composer.select (some handle.table) handle.name
        (keys.entries.map Prod.fst) (.keys keys) (some ⟨1, 0⟩)) =
      (do pure (handle.lookup keys (← handle.keyPredicate keys))) := by
  have noOrdering : Composer.orderingOf (.keys keys) = "" := rfl
  simp only [Composer.select, Composer.predicate, keyPredicate, noOrdering,
    Statement.sql_nothing]
  cases handle.composer.keys (some handle.table) keys <;> rfl

private theorem isEmpty_of_keysOf {record : Record} {keys : Keys}
    (known : handle.keysOf record = .ok keys) : keys.isEmpty = false := by
  simp only [keysOf] at known
  split at known
  · cases known
  next present =>
    cases known
    simpa using present

/-- A record is there if its existence query finds a row. -/
theorem containsRecord_eq (record : Record) :
    handle.containsRecord record =
      (handle.database.fetch (handle.existenceQuery record)).mapOk
        fun records => records.head?.isSome := by
  unfold containsRecord existenceQuery
  cases known : handle.keysOf record with
  | error failure => rfl
  | ok keys =>
      simp only [contains, isEmpty_of_keysOf known, getOne, lift_select_keys,
        Exchange.mapOk_mapOk]
      rfl

theorem transcript_containsRecord_iff {record : Record}
    {sendings : List Sending} {result : Except Failure Bool} :
    (handle.containsRecord record).Transcript sendings result ↔
      (∃ failure, handle.existenceQuery record = .error failure ∧
        sendings = [] ∧
        result = .error failure) ∨
      ∃ query answer, handle.existenceQuery record = .ok query ∧
        sendings = [.fetch query answer] ∧
          result = (answer.mapError handle.database.failure).map fun rows =>
            !rows.isEmpty := by
  rw [containsRecord_eq, Exchange.transcript_mapOk_iff]
  constructor
  · rintro ⟨records, transcript, rfl⟩
    rcases Database.transcript_fetch_iff.mp transcript with
      ⟨failure, refused, rfl, rfl⟩ | ⟨query, answer, composed, rfl, rfl⟩
    · exact .inl ⟨failure, refused, rfl, rfl⟩
    · refine .inr ⟨query, answer, composed, rfl, ?_⟩
      cases answer with
      | error error => rfl
      | ok rows => cases rows <;> rfl
  · rintro (⟨failure, refused, rfl, rfl⟩ | ⟨query, answer, composed, rfl, rfl⟩)
    · exact ⟨.error failure, Database.transcript_fetch_iff.mpr
        (.inl ⟨failure, refused, rfl, rfl⟩), rfl⟩
    · refine ⟨_, Database.transcript_fetch_iff.mpr
        (.inr ⟨query, answer, composed, rfl, rfl⟩), ?_⟩
      cases answer with
      | error error => rfl
      | ok rows => cases rows <;> rfl

/-- An upsert ends with its existence test, or goes on to update what the test
has found and to insert what it has not. -/
theorem transcript_upsert_iff {record : Record} {sendings : List Sending}
    {result : Except Failure Nat} :
    (handle.upsert record).Transcript sendings result ↔
      (∃ failure,
        (handle.containsRecord record).Transcript sendings (.error failure) ∧
          result = .error failure) ∨
      ∃ query rows rest, handle.existenceQuery record = .ok query ∧
        sendings = .fetch query (.ok rows) :: rest ∧
          (if rows.isEmpty then handle.insert record false
            else handle.update record none).Transcript rest result := by
  rw [upsert, Exchange.transcript_andThen_iff]
  constructor
  · rintro (failed | ⟨first, second, found, rfl, tested, written⟩)
    · exact .inl failed
    · rcases transcript_containsRecord_iff.mp tested with
        ⟨_, _, _, refused⟩ | ⟨query, answer, composed, rfl, answered⟩
      · cases refused
      · cases answer with
        | error error => cases answered
        | ok rows =>
            cases answered
            refine .inr ⟨query, rows, second, composed, rfl, ?_⟩
            cases rows <;> exact written
  · rintro (failed | ⟨query, rows, rest, composed, rfl, written⟩)
    · exact .inl failed
    · refine .inr ⟨[.fetch query (.ok rows)], rest, !rows.isEmpty, rfl, ?_, ?_⟩
      · exact transcript_containsRecord_iff.mpr
          (.inr ⟨query, .ok rows, composed, rfl, rfl⟩)
      · cases rows <;> exact written

end RecordSql.TableHandle
