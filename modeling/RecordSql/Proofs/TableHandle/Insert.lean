import RecordSql.Proofs.Mutation.Insert
import RecordSql.Proofs.TableHandle.Upsert

/-!
# Best-effort inserts

An insert that could be composed is sent once, and its result is told by the
answer alone.  A best-effort insert is to pass over rows that break a
constraint.  Where the dialect has a verb for it, the engine is asked to, and
a broken constraint that it reports all the same is returned.  Where there is
no such verb, the row counts as passed over.
-/

namespace RecordSql

/-- The constraint that a driver error tells of, by the dialect's
table of codes. -/
def Dialect.violation? (dialect : Dialect) (error : DriverError) :
    Option Violation :=
  (error.code.bind dialect.code?).bind VendorCode.violation

namespace Failure

variable {dialect : Dialect} {error : DriverError}

theorem ofDriver_of_violation (translated : Bool) {violation : Violation}
    (violates : dialect.violation? error = some violation) : ∃ message code,
      ofDriver dialect translated error =
        constraintViolated violation message code error := by
  obtain ⟨entry, known, isViolation⟩ := Option.bind_eq_some_iff.mp violates
  simp only [ofDriver, known, isViolation]
  exact ⟨_, _, rfl⟩

theorem ofDriver_of_no_violation (translated : Bool)
    (unviolated : dialect.violation? error = none) :
    ∃ message code,
      ofDriver dialect translated error = queryFailed message code error := by
  cases known : error.code.bind dialect.code? with
  | none =>
      simp only [ofDriver, known]
      exact ⟨_, _, rfl⟩
  | some entry =>
      have noViolation : entry.violation = none := by
        simpa only [Dialect.violation?, known, Option.bind_some]
          using unviolated
      simp only [ofDriver, known, noViolation]
      exact ⟨_, _, rfl⟩

end Failure

namespace TableHandle

/-- The result of an insert by the answer to its statement. -/
structure Inserts (handle : TableHandle) (ignore : Bool) (answer : WriteAnswer)
    (result : Except Failure Nat) : Prop where
  counts : ∀ rows, answer = .ok rows → result = .ok rows
  /-- An error that tells of no constraint is returned, whatever is to
  be passed over. -/
  fails : ∀ error, answer = .error error →
    handle.database.dialect.violation? error = none →
    ∃ message code, result = .error (.queryFailed message code error)
  /-- A broken constraint is a row passed over, where no verb asks the
  engine to do so. -/
  passes : ∀ error violation, answer = .error error →
    handle.database.dialect.violation? error = some violation → ignore = true →
    handle.database.dialect.insertIgnoring? = none → result = .ok 0
  /-- In every other case a broken constraint is returned. -/
  violates : ∀ error violation, answer = .error error →
    handle.database.dialect.violation? error = some violation →
    (ignore = true → handle.database.dialect.insertIgnoring?.isSome) →
    ∃ message code,
      result = .error (.constraintViolated violation message code error)

/-- What is asked of a best-effort insert, whatever the dialect: a row that
breaks a constraint is passed over, and nothing else is. -/
structure Skips (handle : TableHandle) (answer : WriteAnswer)
    (result : Except Failure Nat) : Prop where
  counts : ∀ rows, answer = .ok rows → result = .ok rows
  fails : ∀ error, answer = .error error →
    handle.database.dialect.violation? error = none →
    ∃ message code, result = .error (.queryFailed message code error)
  passes : ∀ error violation, answer = .error error →
    handle.database.dialect.violation? error = some violation →
    result = .ok 0
  unviolated : ∀ violation message code source,
    result ≠ .error (.constraintViolated violation message code source)

/-- An insert sends its statement once.  A best-effort one skips what it is
asked to if and only if the engine reports no broken constraint where it has
been asked to pass over them. -/
structure InsertsBestEffort (handle : TableHandle) (record : Record)
    (ignore : Bool) (statement : Statement) : Prop where
  /-- The statement has the dialect's verb, if there is one. -/
  verb : (handle.database.dialect.readInsert?
      (statement.executable handle.database.dialect).toList).map
        InsertText.ignoring =
    some (ignore && handle.database.dialect.insertIgnoring?.isSome)
  answered : ∀ answer, ∃ result, (handle.insert record ignore).Transcript
    [.execute statement answer] result
  sent : ∀ sendings result,
    (handle.insert record ignore).Transcript sendings result →
      ∃ answer, sendings = [.execute statement answer] ∧
        handle.Inserts ignore answer result
  skips_iff : ignore = true → ∀ answer result,
    (handle.insert record ignore).Transcript
        [.execute statement answer] result →
      (handle.Skips answer result ↔
        (handle.database.dialect.insertIgnoring?.isSome →
          ∀ error, answer = .error error →
            handle.database.dialect.violation? error = none))

variable {handle : TableHandle} {ignore : Bool} {record : Record}
  {statement : Statement} {answer : WriteAnswer}
  {result : Except Failure Nat}

/-- The result of an insert as its exchange computes it from the answer. -/
private def insertResult (handle : TableHandle) (ignore : Bool)
    (answer : WriteAnswer) : Except Failure Nat :=
  let outcome := answer.mapError handle.database.failure
  if ignore then handle.passOver outcome else outcome

private theorem passOver_of_violation {violation : Violation}
    {message code : String} {source : DriverError} :
    handle.passOver
        (.error (.constraintViolated violation message code source)) =
      if handle.database.dialect.insertIgnoring?.isNone then .ok 0
      else .error (.constraintViolated violation message code source) := rfl

private theorem inserts_insertResult (answer : WriteAnswer) :
    handle.Inserts ignore answer (handle.insertResult ignore answer) := by
  constructor
  case counts =>
    rintro rows rfl
    cases ignore <;> rfl
  case fails =>
    rintro error rfl unviolated
    obtain ⟨message, code, failed⟩ :=
      Failure.ofDriver_of_no_violation
        handle.database.settings.translateErrors unviolated
    refine ⟨message, code, ?_⟩
    simp only [insertResult, Except.mapError, Database.failure, failed]
    cases ignore <;> rfl
  case passes =>
    rintro error violation rfl violated rfl noVerb
    obtain ⟨message, code, failed⟩ :=
      Failure.ofDriver_of_violation
        handle.database.settings.translateErrors violated
    simp only [insertResult, Except.mapError, Database.failure, failed, if_true,
      passOver_of_violation, noVerb, Option.isNone_none]
  case violates =>
    rintro error violation rfl violated verb
    obtain ⟨message, code, failed⟩ :=
      Failure.ofDriver_of_violation
        handle.database.settings.translateErrors violated
    refine ⟨message, code, ?_⟩
    simp only [insertResult, Except.mapError, Database.failure, failed]
    cases ignore with
    | false => rfl
    | true =>
        have hasVerb := Option.isSome_iff_ne_none.mp (verb rfl)
        simp [passOver_of_violation, hasVerb]

private theorem transcript_insert_iff {sendings : List Sending}
    (composed : handle.composer.insert handle.table handle.name record ignore =
      .ok statement) :
    (handle.insert record ignore).Transcript sendings result ↔
      ∃ answer, sendings = [.execute statement answer] ∧
        result = handle.insertResult ignore answer := by
  constructor
  · intro transcript
    obtain ⟨outcome, sent, rfl⟩ := Exchange.transcript_map_iff.mp transcript
    rw [composed] at sent
    rcases Database.transcript_execute_iff.mp sent with
      ⟨failure, refused, _⟩ | ⟨written, answer, same, rfl, rfl⟩
    · cases refused
    · cases same
      exact ⟨answer, rfl, rfl⟩
  · rintro ⟨answer, rfl, rfl⟩
    refine Exchange.transcript_map_iff.mpr
      ⟨answer.mapError handle.database.failure, ?_, rfl⟩
    exact Database.transcript_execute_iff.mpr (.inr
      ⟨statement, answer, Failure.lift_eq_ok_iff.mpr composed, rfl, rfl⟩)

private theorem skips_of_unreported
    (inserts : handle.Inserts true answer result)
    (unreported : handle.database.dialect.insertIgnoring?.isSome →
      ∀ error, answer = .error error →
        handle.database.dialect.violation? error = none) :
    handle.Skips answer result := by
  have passes : ∀ error violation, answer = .error error →
      handle.database.dialect.violation? error = some violation →
      result = .ok 0 := by
    intro error violation failed violated
    cases verb : handle.database.dialect.insertIgnoring? with
    | none => exact inserts.passes error violation failed violated rfl verb
    | some words =>
        rw [unreported (by rw [verb]; rfl) error failed] at violated
        cases violated
  refine ⟨inserts.counts, inserts.fails, passes, ?_⟩
  rintro violation message code source rfl
  cases answered : answer with
  | ok rows => cases inserts.counts rows answered
  | error error =>
      cases violated : handle.database.dialect.violation? error with
      | none =>
          obtain ⟨_, _, failed⟩ := inserts.fails error answered violated
          cases failed
      | some reported => cases passes error reported answered violated

private theorem unreported_of_skips
    (inserts : handle.Inserts true answer result)
    (skips : handle.Skips answer result)
    (verb : handle.database.dialect.insertIgnoring?.isSome)
    (error : DriverError) (failed : answer = .error error) :
    handle.database.dialect.violation? error = none := by
  by_contra reported
  obtain ⟨violation, violated⟩ := Option.ne_none_iff_exists'.mp reported
  obtain ⟨message, code, returned⟩ :=
    inserts.violates error violation failed violated fun _ => verb
  exact skips.unviolated violation message code error returned

/-- Whatever the dialect and the wording of errors, every insert whose record
binds is sent once and ends by the answer. -/
theorem insertsBestEffort
    (composed : handle.composer.insert handle.table handle.name record ignore =
      .ok statement) :
    handle.InsertsBestEffort record ignore statement where
  verb := by
    have read := Composer.readInsert?_of_insert composed
    exact congrArg (Option.map InsertText.ignoring) read
  answered answer :=
    ⟨_, (transcript_insert_iff composed).mpr ⟨answer, rfl, rfl⟩⟩
  sent sendings result transcript := by
    obtain ⟨answer, sent, rfl⟩ := (transcript_insert_iff composed).mp transcript
    exact ⟨answer, sent, inserts_insertResult answer⟩
  skips_iff ignores answer result transcript := by
    subst ignores
    obtain ⟨given, sent, rfl⟩ := (transcript_insert_iff composed).mp transcript
    cases sent
    have inserts : handle.Inserts true answer
        (handle.insertResult true answer) := inserts_insertResult answer
    exact ⟨unreported_of_skips inserts, skips_of_unreported inserts⟩

/-- A line that is there already, inserted where the dialect has no verb to
pass over it. -/
theorem insertsBestEffort_duplicate :
    let lines : TableHandle :=
      ⟨⟨{ engine := .sqlserver }⟩, orderLines.table⟩
    let record := Record.ofList
      [("order_id", .integer 1), ("line", .integer 2)]
    let insert : Statement := .ofPieces
      [.text "INSERT INTO [lines] ([order_id], [line]) VALUES (",
        .param (.integer 1), .text ", ", .param (.integer 2), .text ")"]
    let error : DriverError :=
      ⟨some "2627", "Violation of PRIMARY KEY constraint"⟩
    lines.composer.insert lines.table lines.name record true = .ok insert ∧
      lines.database.dialect.violation? error = some .unique ∧
      (lines.insert record true).Transcript
        [.execute insert (.error error)] (.ok 0) ∧
      lines.Skips (.error error) (.ok 0) := by
  intro lines record insert error
  have composed : lines.composer.insert lines.table lines.name record true =
      .ok insert := by decide +kernel
  have inserts := insertsBestEffort composed
  obtain ⟨result, transcript⟩ := inserts.answered (.error error)
  have skips := (inserts.skips_iff rfl _ _ transcript).mpr nofun
  have violated : lines.database.dialect.violation? error =
      some .unique := by decide +kernel
  obtain rfl := skips.passes error _ rfl violated
  exact ⟨composed, violated, transcript, skips⟩

/-- SQLite does not pass over a line of an order that is not there: its verb
is used, and the broken constraint is returned. -/
theorem not_skips_missingOrder :
    let record := Record.ofList
      [("order_id", .integer 7), ("line", .integer 1)]
    let insert : Statement := .ofPieces
      [.text "INSERT OR IGNORE INTO lines (order_id, line) VALUES (",
        .param (.integer 7), .text ", ", .param (.integer 1), .text ")"]
    let error : DriverError := ⟨some "787", "FOREIGN KEY constraint failed"⟩
    let returned : Failure := .constraintViolated .foreignKey
      "The record references a row in another table that does not exist"
      "787" error
    orderLines.composer.insert orderLines.table orderLines.name record true =
        .ok insert ∧
      (orderLines.insert record true).Transcript
        [.execute insert (.error error)] (.error returned) ∧
      ¬ orderLines.Skips (.error error) (.error returned) := by
  intro record insert error returned
  have composed : orderLines.composer.insert orderLines.table orderLines.name
      record true = .ok insert := by decide +kernel
  refine ⟨composed, ?_, fun skips => skips.unviolated _ _ _ _ rfl⟩
  exact (transcript_insert_iff composed).mpr
    ⟨.error error, rfl, by decide +kernel⟩

end TableHandle

end RecordSql
