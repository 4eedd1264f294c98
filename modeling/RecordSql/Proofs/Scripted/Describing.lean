import RecordSql.Proofs.Exchange.Ending
import RecordSql.Proofs.Registry.Gathering
import RecordSql.Scripted.Describing

/-!
# How describing ends

Callers that take turns over a connection come back with a table, or with the
reason why there is none; the error of the driver is not among their failures.
-/

namespace RecordSql

/-- A caller that has not come back with an error of the driver. -/
def Caller.Refusing (caller : Caller) : Prop :=
  ∀ outcome, caller.outcome? = some outcome → Failure.Refusing outcome

theorem Caller.Refusing.advance {caller moved : Caller} {answer : ColumnsAnswer}
    {registry next : Registry} (refusing : caller.Refusing)
    (advanced : caller.advance? answer registry = some (moved, next)) :
    moved.Refusing := by
  obtain ⟨table, stage⟩ := caller
  obtain ⟨reached, rfl, move⟩ := Caller.move_of_advance? advanced
  intro outcome returned
  cases move with
  | served | succeeded =>
      cases returned
      exact Failure.refusing_ok _
  | evicted =>
      cases returned
      exact Failure.refusing_error rfl
  | joined | began | gaveUp => cases returned

namespace Catalog

theorem refusing_poll (moves : Nat) (catalog : Catalog) {caller : Caller}
    (refusing : caller.Refusing) : (poll moves catalog caller).1.Refusing := by
  induction moves generalizing catalog caller with
  | zero => exact refusing
  | succ moves induction =>
      unfold poll
      dsimp only
      split
      · exact refusing
      next moved registry advanced =>
        split
        · exact refusing.advance advanced
        · exact induction _ (refusing.advance advanced)

theorem refusing_round (catalog : Catalog) {callers : List Caller}
    (refusing : ∀ caller ∈ callers, caller.Refusing) :
    ∀ caller ∈ (catalog.round callers).1, caller.Refusing := by
  induction callers generalizing catalog with
  | nil => simp [round]
  | cons caller callers induction =>
      rw [List.forall_mem_cons] at refusing
      unfold round
      rw [List.forall_mem_cons]
      exact ⟨refusing_poll _ _ refusing.1, induction _ refusing.2⟩

theorem refusing_rounds (count : Nat) (catalog : Catalog)
    {callers : List Caller} (refusing : ∀ caller ∈ callers, caller.Refusing) :
    ∀ caller ∈ (rounds count catalog callers).1, caller.Refusing := by
  induction count generalizing catalog callers with
  | zero => exact refusing
  | succ count induction => exact induction _ (refusing_round catalog refusing)

theorem refusing_describeTogether (catalog : Catalog) (count : Nat)
    (table : String) :
    ∀ outcome ∈ (catalog.describeTogether count table).1,
      Failure.Refusing outcome := by
  have arriving : ∀ caller ∈ List.replicate count (Caller.arriving table),
      caller.Refusing := by
    intro caller member
    rw [List.eq_of_mem_replicate member]
    rintro outcome ⟨⟩
  intro outcome member
  obtain ⟨caller, inRounds, returned⟩ := List.mem_filterMap.mp member
  exact refusing_rounds (count + 1) catalog arriving caller inRounds
    outcome returned

theorem refusing_describe (catalog : Catalog) (table : String) :
    Failure.Refusing (catalog.describe table).1 := by
  have refusing := catalog.refusing_describeTogether 1 table
  unfold describe
  dsimp only
  cases outcomes : (catalog.describeTogether 1 table).1 with
  | nil => exact Failure.refusing_error rfl
  | cons outcome others => exact refusing outcome (by simp [outcomes])

end Catalog

end RecordSql
