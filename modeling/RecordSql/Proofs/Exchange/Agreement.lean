import RecordSql.Proofs.Outcome.Agreement
import RecordSql.Scripted.Connection

/-!
# Exchanges side by side

Two exchanges agree if they send related statements one after another, as long
as they get the same answers, and have related results.  Ways of putting
exchanges together keep the agreement, and exchanges that agree leave
connections in the same state but for the requests that these have seen.
-/

namespace RecordSql

/-- What is compared of two runs: their statements and their failures.  Only
some errors may be reported in them. -/
structure Comparison where
  statements : Statement → Statement → Prop
  errors : DriverError → Prop
  failures : Failure → Failure → Prop

namespace Comparison

/-- An answer that does not report any other error. -/
def Allows {α : Type} (comparison : Comparison)
    (answer : Except DriverError α) : Prop :=
  ∀ error, answer = .error error → comparison.errors error

/-- Two operations return the same, or fail in related ways. -/
abbrev SameResult {α : Type} (comparison : Comparison) :
    Except Failure α → Except Failure α → Prop :=
  Outcome.Agree comparison.failures Eq

end Comparison

namespace Exchange

variable {α β γ κ : Type} {comparison : Comparison} {Results : α → β → Prop}

/-- Two exchanges send related statements as long as they get the same
answers. -/
inductive Agree (comparison : Comparison) (Results : α → β → Prop) :
    Exchange α → Exchange β → Prop where
  | done {first : α} {second : β} :
      Results first second →
        Agree comparison Results (.done first) (.done second)
  | execute {first second : Statement} {next : WriteAnswer → Exchange α}
      {other : WriteAnswer → Exchange β} :
      comparison.statements first second →
        (∀ answer, comparison.Allows answer →
          Agree comparison Results (next answer) (other answer)) →
          Agree comparison Results (.execute first next) (.execute second other)
  | fetch {first second : Statement} {next : ReadAnswer → Exchange α}
      {other : ReadAnswer → Exchange β} :
      comparison.statements first second →
        (∀ answer, comparison.Allows answer →
          Agree comparison Results (next answer) (other answer)) →
          Agree comparison Results (.fetch first next) (.fetch second other)

namespace Agree

theorem bind {Ends : γ → κ → Prop} {first : Exchange α} {second : Exchange β}
    {next : α → Exchange γ} {other : β → Exchange κ}
    (agree : Agree comparison Results first second)
    (continued : ∀ left right, Results left right →
      Agree comparison Ends (next left) (other right)) :
    Agree comparison Ends (first.bind next) (second.bind other) := by
  induction agree with
  | done related => exact continued _ _ related
  | execute related _ induction => exact .execute related induction
  | fetch related _ induction => exact .fetch related induction

theorem map {Ends : γ → κ → Prop} {first : Exchange α} {second : Exchange β}
    {change : α → γ} {other : β → κ}
    (agree : Agree comparison Results first second)
    (changed : ∀ left right, Results left right →
      Ends (change left) (other right)) :
    Agree comparison Ends (first.map change) (second.map other) :=
  agree.bind fun left right related => .done (changed left right related)

variable {first second : Exchange (Except Failure α)}

theorem mapOk (agree : Agree comparison comparison.SameResult first second)
    (change : α → β) :
    Agree comparison comparison.SameResult
      (first.mapOk change) (second.mapOk change) :=
  agree.map fun _ _ same => same.map fun _ _ equal => congrArg change equal

theorem andThen {next other : α → Exchange (Except Failure β)}
    (agree : Agree comparison comparison.SameResult first second)
    (continued :
      ∀ value,
        Agree comparison comparison.SameResult (next value) (other value)) :
    Agree comparison comparison.SameResult (first.andThen next)
      (second.andThen other) := by
  apply agree.bind
  intro left right same
  cases same with
  | ok equal =>
      cases equal
      exact continued _
  | error related => exact .done (.error related)

end Agree

end Exchange

namespace ScriptedConnection

/-- Connections in the same state that have seen related requests. -/
structure Agree (Requests : Request → Request → Prop)
    (first second : ScriptedConnection) : Prop where
  requests : List.Forall₂ Requests first.requests second.requests
  state : { first with requests := [] } = { second with requests := [] }

namespace Agree

variable {Requests : Request → Request → Prop}
  {first second : ScriptedConnection}

theorem refl (related : ∀ request, Requests request request)
    (connection : ScriptedConnection) : Agree Requests connection connection :=
  ⟨List.forall₂_same.mpr fun request _ => related request, rfl⟩

/-- Connections that have seen the same requests are the same. -/
theorem eq_of_eq (agree : Agree Eq first second) : first = second := by
  obtain ⟨requests, state⟩ := agree
  rw [List.forall₂_eq_eq_eq] at requests
  cases first
  cases second
  simp_all

theorem record {left right : Request} (agree : Agree Requests first second)
    (related : Requests left right) :
    Agree Requests (first.record left) (second.record right) :=
  ⟨List.rel_append agree.requests (.cons related .nil), agree.state⟩

theorem answerWrite (agree : Agree Requests first second) :
    first.answerWrite.1 = second.answerWrite.1 ∧
      Agree Requests first.answerWrite.2 second.answerWrite.2 := by
  obtain ⟨requests, state⟩ := agree
  cases first
  cases second
  cases state
  simp only [ScriptedConnection.answerWrite]
  split <;> exact ⟨rfl, requests, rfl⟩

theorem answerRead (agree : Agree Requests first second) :
    first.answerRead.1 = second.answerRead.1 ∧
      Agree Requests first.answerRead.2 second.answerRead.2 := by
  obtain ⟨requests, state⟩ := agree
  cases first
  cases second
  cases state
  simp only [ScriptedConnection.answerRead]
  split <;> exact ⟨rfl, requests, rfl⟩

end Agree

/-- No other errors are prepared. -/
def Allows (connection : ScriptedConnection) (comparison : Comparison) : Prop :=
  ∀ error ∈ connection.errors, comparison.errors error

namespace Allows

variable {comparison : Comparison} {connection : ScriptedConnection}

theorem answerWrite (allows : connection.Allows comparison) :
    comparison.Allows connection.answerWrite.1 ∧
      connection.answerWrite.2.Allows comparison := by
  unfold ScriptedConnection.answerWrite
  split
  next error errors prepared =>
    rw [Allows, prepared, List.forall_mem_cons] at allows
    refine ⟨?_, allows.2⟩
    rintro _ ⟨⟩
    exact allows.1
  · refine ⟨?_, allows⟩
    rintro _ ⟨⟩

theorem answerRead (allows : connection.Allows comparison) :
    comparison.Allows connection.answerRead.1 ∧
      connection.answerRead.2.Allows comparison := by
  unfold ScriptedConnection.answerRead
  split
  next error errors prepared =>
    rw [Allows, prepared, List.forall_mem_cons] at allows
    refine ⟨?_, allows.2⟩
    rintro _ ⟨⟩
    exact allows.1
  · refine ⟨?_, allows⟩
    rintro _ ⟨⟩

end Allows

/-- Exchanges that agree, in the words of two dialects, have related results and
leave connections in the same state that have seen related requests. -/
theorem run_agree {α β : Type} {comparison : Comparison}
    {Results : α → β → Prop} {Requests : Request → Request → Prop}
    {dialect other : Dialect}
    (worded : ∀ kind left right, comparison.statements left right →
      Requests (.ofStatement dialect kind left) (.ofStatement other kind right))
    {exchange : Exchange α} {counterpart : Exchange β}
    (agree : Exchange.Agree comparison Results exchange counterpart)
    {first second : ScriptedConnection} (same : Agree Requests first second)
    (allows : first.Allows comparison) :
    Results (run dialect exchange first).1 (run other counterpart second).1 ∧
      Agree Requests (run dialect exchange first).2
        (run other counterpart second).2 := by
  induction agree generalizing first second with
  | done related => exact ⟨related, same⟩
  | @execute left right next next' related _ induction =>
      have recorded := same.record (worded .execute left right related)
      obtain ⟨sameAnswer, after⟩ := recorded.answerWrite
      have answered : (first.record (.ofStatement dialect .execute left)).Allows
          comparison :=
        allows
      obtain ⟨allowed, stillAllows⟩ := answered.answerWrite
      simp only [run]
      rw [← sameAnswer]
      exact induction _ allowed after stillAllows
  | @fetch left right next next' related _ induction =>
      have recorded := same.record (worded .fetch left right related)
      obtain ⟨sameAnswer, after⟩ := recorded.answerRead
      have answered :
          (first.record (.ofStatement dialect .fetch left)).Allows comparison :=
        allows
      obtain ⟨allowed, stillAllows⟩ := answered.answerRead
      simp only [run]
      rw [← sameAnswer]
      exact induction _ allowed after stillAllows

end ScriptedConnection

end RecordSql
