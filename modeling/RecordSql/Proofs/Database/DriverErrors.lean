import RecordSql.Proofs.Database.Ending
import RecordSql.Proofs.Database.Performance
import RecordSql.Proofs.TableHandle.Upsert

/-!
# Errors of the driver

An error that the driver reports ends the operation in which it is reported
and becomes its failure, with the code of the driver; and no other operation
fails in this way.
-/

namespace RecordSql

/-- An operation heeds the errors of the driver. -/
structure Performance.HeedsErrors (performance : Performance) : Prop where
  /-- At most one statement that writes is sent. -/
  writes_once : performance.sendings.countP Sending.isExecute ≤ 1
  /-- At most one statement is sent at all, but for the existence
  query of an upsert. -/
  sends_once : ∃ preceding rest, performance.sendings = preceding ++ rest ∧
    performance.Precedes preceding ∧ rest.length ≤ 1
  /-- Nothing is sent after an error. -/
  stops : ∀ before sending after error,
    performance.sendings = before ++ sending :: after →
      sending.error? = some error → after = []
  /-- An error becomes the failure, except where an insert may pass over it. -/
  fails :
    (∀ table record,
        performance.call.operation ≠ .table table (.insert record true)) →
      ∀ sending ∈ performance.sendings, ∀ error, sending.error? = some error →
        ∃ failure, performance.result = .error failure ∧
          failure.isReported = true ∧
          failure.source? = some error ∧ failure.code? = error.code
  /-- There is no such failure without an error. -/
  fails_only : ∀ failure, performance.result = .error failure →
    failure.isReported = true →
    ∃ sending ∈ performance.sendings, ∃ error, sending.error? = some error ∧
      failure.source? = some error
  /-- Nothing but the count of an insert that passed over an error is
  returned after one. -/
  returns_only : ∀ value, performance.result = .ok value →
    (∀ sending ∈ performance.sendings, sending.error? = none) ∨
      performance.PassesOver performance.sendings

namespace Performance

variable {performance : Performance} {preceding rest : List Sending}

private theorem Precedes.answered (precedes : performance.Precedes preceding) :
    ∀ sending ∈ preceding, sending.isExecute = false ∧
      sending.error? = none := by
  cases precedes with
  | nothing => simp
  | existence rows _ _ =>
      intro sending member
      obtain rfl := List.mem_singleton.mp member
      exact ⟨rfl, rfl⟩

/-- An insert that passes over an error has no existence query. -/
private theorem Precedes.eq_nil_of_passesOver
    (precedes : performance.Precedes preceding)
    (passes : performance.PassesOver rest) : preceding = [] := by
  obtain ⟨_, _, _, _, isInsert, _⟩ := passes
  cases precedes with
  | nothing => rfl
  | existence rows isUpsert _ => simp [isUpsert] at isInsert

/-- How an operation concludes after what precedes. -/
private abbrev Concludes (performance : Performance)
    (rest : List Sending) : Prop :=
  Ending performance.call.database rest performance.result ∨
    performance.PassesOver rest

private theorem length_le_one (concludes : performance.Concludes rest) :
    rest.length ≤ 1 := by
  rcases concludes with ending | ⟨_, _, _, _, _, rfl, _⟩
  · exact ending.length_le_one
  · exact Nat.le_refl 1

/-- What is not among the preceding is the last of all. -/
private theorem eq_nil_of_split {before after : List Sending}
    {sending : Sending} (split : preceding ++ rest = before ++ sending :: after)
    (absent : sending ∉ preceding) (once : rest.length ≤ 1) : after = [] := by
  rcases List.append_eq_append_iff.mp split with
    ⟨middle, _, inRest⟩ | ⟨middle, inPreceding, afterwards⟩
  · have length := congrArg List.length inRest
    simp only [List.length_append, List.length_cons] at length
    exact List.eq_nil_of_length_eq_zero (by omega)
  · cases middle with
    | nil =>
        have length := congrArg List.length afterwards
        simp only [List.nil_append, List.length_cons] at length
        exact List.eq_nil_of_length_eq_zero (by omega)
    | cons first middle =>
        obtain ⟨rfl, _⟩ := List.cons.inj afterwards
        exact absurd (by simp [inPreceding]) absent

private theorem result_of_reported {sending : Sending} {error : DriverError}
    (concludes : performance.Concludes rest) (member : sending ∈ rest)
    (reported : sending.error? = some error) :
    performance.result = .error (performance.call.database.failure error) ∨
      performance.PassesOver rest := by
  rcases concludes with ending | passes
  · left
    generalize performance.result = result at ending
    cases ending with
    | refused _ => cases member
    | spared _ => cases member
    | answered value answered =>
        obtain rfl := List.mem_singleton.mp member
        rw [answered] at reported
        cases reported
    | reported given =>
        obtain rfl := List.mem_singleton.mp member
        rw [given] at reported
        cases reported
        rfl
  · exact .inr passes

/-- Every operation heeds the errors of the driver, whatever it is asked and
however it is answered. -/
theorem heedsErrors (performance : Performance) : performance.HeedsErrors := by
  obtain ⟨preceding, rest, sent, precedes, concludes⟩ := performance.concludes
  have once := length_le_one concludes
  have inRest : ∀ sending ∈ performance.sendings, ∀ error,
      sending.error? = some error →
        sending ∉ preceding ∧ sending ∈ rest := by
    intro sending member error reported
    have absent : sending ∉ preceding := by
      intro before
      rw [(precedes.answered sending before).2] at reported
      cases reported
    rw [sent] at member
    exact ⟨absent, (List.mem_append.mp member).resolve_left absent⟩
  constructor
  case writes_once =>
    have noneBefore : preceding.countP Sending.isExecute = 0 := by
      apply List.countP_eq_zero.mpr
      intro sending member
      simp [(precedes.answered sending member).1]
    have atMost := List.countP_le_length (p := Sending.isExecute) (l := rest)
    rw [sent, List.countP_append]
    omega
  case sends_once => exact ⟨preceding, rest, sent, precedes, once⟩
  case stops =>
    intro before sending after error split reported
    have absent := (inRest sending (by simp [split]) error reported).1
    rw [sent] at split
    exact eq_nil_of_split split absent once
  case fails =>
    intro noInsert sending member error reported
    have last := (inRest sending member error reported).2
    rcases result_of_reported concludes last reported with failed | passes
    · exact ⟨_, failed, Failure.ofDriver_reports _ _ error⟩
    · obtain ⟨table, record, _, _, isInsert, _⟩ := passes
      exact absurd isInsert (noInsert table record)
  case fails_only =>
    intro failure failed reported
    rcases concludes with ending | ⟨_, _, _, _, _, _, passed⟩
    · rw [failed] at ending
      cases ending with
      | refused unreported =>
          rw [reported] at unreported
          cases unreported
      | @reported sending error given =>
          exact ⟨sending, by
            simp [sent], error, given, (Failure.ofDriver_reports _ _ error).2.1⟩
    · rw [passed] at failed
      cases failed
  case returns_only =>
    intro value returned
    rcases concludes with ending | passes
    · left
      intro sending member
      rw [sent] at member
      rcases List.mem_append.mp member with before | last
      · exact (precedes.answered sending before).2
      · rw [returned] at ending
        cases ending with
        | spared _ => cases last
        | answered _ answered =>
            obtain rfl := List.mem_singleton.mp last
            exact answered
    · right
      rw [sent, precedes.eq_nil_of_passesOver passes]
      exact passes

/-- An order that other rows refer to is not deleted. -/
theorem heedsErrors_referenced :
    let lines := TableHandle.orderLines
    let delete : Statement :=
      .ofPieces [.text "DELETE FROM lines WHERE order_id = ",
        .param (.integer 1)]
    let error : DriverError := ⟨some "787", "FOREIGN KEY constraint failed"⟩
    ∃ performance : Performance,
      performance.call.operation =
          .table lines.table
            (.delete (.keys (.ofList [("order_id", .integer 1)]))) ∧
        performance.sendings = [.execute delete (.error error)] ∧
          performance.result = .error (lines.database.failure error) ∧
            performance.HeedsErrors := by
  intro lines delete error
  have deletes :
      (lines.delete (.keys (.ofList [("order_id", .integer 1)]))).Transcript
        [.execute delete (.error error)]
        (.error (lines.database.failure error)) :=
    Database.transcript_execute_iff.mpr
      (.inr ⟨delete, .error error, by decide +kernel, rfl, rfl⟩)
  let call : DatabaseCall :=
    ⟨lines.database,
      .table lines.table (.delete (.keys (.ofList [("order_id", .integer 1)])))⟩
  have takesPlace : call.perform.Transcript [.execute delete (.error error)]
      (.error (lines.database.failure error)) :=
    DatabaseCall.transcript_of_affected lines (.delete _) rfl deletes
  let performance : Performance := ⟨call, _, _, takesPlace⟩
  exact ⟨performance, rfl, rfl, rfl, performance.heedsErrors⟩

end Performance

end RecordSql
