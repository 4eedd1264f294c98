import RecordSql.Predicate
import RecordSql.Proofs.Outcome
import RecordSql.Proofs.Statement.Composition

/-!
# The clauses of groups

A group is composed from one clause for each of its conditions.  Groups are
composed exactly if all their conditions are, and have the parameters of these
clauses in the order of the conditions.
-/

namespace RecordSql.Composer

/-- Conditions are composed to clauses, one by one. -/
abbrev Composes (composer : Composer) (table : Option Table) :
    List Condition → List Statement → Prop :=
  List.Forall₂ fun condition clause =>
    composer.condition table condition = .ok clause

variable {composer : Composer} {table : Option Table}
  {conditions : List Condition} {clauses : List Statement}
  {group : ConditionGroup} {groups : List ConditionGroup}

theorem exists_condition_of_composes
    (composes : composer.Composes table conditions clauses) {clause : Statement}
    (member : clause ∈ clauses) :
    ∃ condition ∈ conditions,
      composer.condition table condition = .ok clause := by
  induction composes with
  | nil => cases member
  | @cons condition _ _ _ clauseOk _ induction =>
      rcases List.mem_cons.mp member with rfl | later
      · exact ⟨condition, List.mem_cons_self, clauseOk⟩
      · obtain ⟨other, inRest, otherOk⟩ := induction later
        exact ⟨other, List.mem_cons_of_mem condition inRest, otherOk⟩

theorem exists_composes_iff :
    (∃ clauses, composer.Composes table conditions clauses) ↔
      ∀ condition ∈ conditions, ∃ clause,
        composer.condition table condition = .ok clause := by
  simp only [← Outcome.exists_mapM_eq_ok_iff, Outcome.mapM_eq_ok_iff]

private theorem clauses_of_furtherConditions {rest : List Condition}
    {before statement : Statement}
    (composed : composer.furtherConditions table rest before = .ok statement) :
    ∃ clauses, composer.Composes table rest clauses ∧
      statement.params = before.params ++ clauses.flatMap Statement.params := by
  induction rest generalizing before with
  | nil =>
      cases composed
      exact ⟨[], .nil, by simp⟩
  | cons next rest induction =>
      obtain ⟨clause, clauseOk, continued⟩ := Outcome.bind_eq_ok_iff.mp composed
      obtain ⟨clauses, clausesOk, params⟩ := induction continued
      exact ⟨clause :: clauses, .cons clauseOk clausesOk, by simp [params]⟩

theorem clauses_of_group {statement? : Option Statement}
    (composed : composer.group table group = .ok statement?) :
    ∃ clauses, composer.Composes table group.conditions clauses ∧
      statement?.toList.flatMap Statement.params =
        clauses.flatMap Statement.params := by
  obtain ⟨name, conditions⟩ := group
  cases conditions with
  | nil =>
      cases composed
      exact ⟨[], .nil, rfl⟩
  | cons first rest =>
      obtain ⟨clause, clauseOk, further⟩ := Outcome.bind_eq_ok_iff.mp composed
      obtain ⟨statement, furtherOk, closed⟩ := Outcome.bind_eq_ok_iff.mp further
      obtain ⟨clauses, clausesOk, params⟩ :=
        clauses_of_furtherConditions furtherOk
      cases closed
      exact ⟨clause :: clauses, .cons clauseOk clausesOk, by simp [params]⟩

/-- Only a group without conditions has no statement, and it has no clauses. -/
theorem clauses_of_groups {composed : List ComposedGroup}
    (succeeded : composer.groups table groups = .ok composed) :
    ∃ clauses,
      composer.Composes table
          (groups.flatMap ConditionGroup.conditions) clauses ∧
        (composed.map ComposedGroup.statement).flatMap Statement.params =
          clauses.flatMap Statement.params := by
  induction groups generalizing composed with
  | nil =>
      cases succeeded
      exact ⟨[], .nil, rfl⟩
  | cons group groups induction =>
      obtain ⟨statement?, groupOk, continued⟩ :=
        Outcome.bind_eq_ok_iff.mp succeeded
      obtain ⟨others, othersOk, combined⟩ := Outcome.bind_eq_ok_iff.mp continued
      obtain ⟨clauses, clausesOk, params⟩ := clauses_of_group groupOk
      obtain ⟨further, furtherOk, furtherParams⟩ := induction othersOk
      refine ⟨clauses ++ further, List.rel_append clausesOk furtherOk, ?_⟩
      rw [List.flatMap_append, ← params, ← furtherParams]
      cases statement? with
      | none =>
          cases combined
          rfl
      | some statement =>
          cases combined
          simp

private theorem exists_furtherConditions {rest : List Condition}
    (before : Statement)
    (allOk : ∀ condition ∈ rest, ∃ clause,
      composer.condition table condition = .ok clause) :
    ∃ statement,
      composer.furtherConditions table rest before = .ok statement := by
  induction rest generalizing before with
  | nil => exact ⟨before, rfl⟩
  | cons next rest induction =>
      obtain ⟨⟨clause, clauseOk⟩, restOk⟩ := List.forall_mem_cons.mp allOk
      obtain ⟨statement, furtherOk⟩ :=
        induction (before.sql (" " ++ next.logic.keyword ++ " ") ++ clause)
          restOk
      exact ⟨statement,
        Outcome.bind_eq_ok_iff.mpr ⟨clause, clauseOk, furtherOk⟩⟩

theorem exists_group
    (allOk : ∀ condition ∈ group.conditions, ∃ clause,
      composer.condition table condition = .ok clause) :
    ∃ composed, composer.group table group = .ok composed := by
  obtain ⟨name, conditions⟩ := group
  cases conditions with
  | nil => exact ⟨none, rfl⟩
  | cons first rest =>
      obtain ⟨⟨clause, clauseOk⟩, restOk⟩ := List.forall_mem_cons.mp allOk
      obtain ⟨statement, furtherOk⟩ :=
        exists_furtherConditions (Statement.ofSql "(" ++ clause) restOk
      exact ⟨_, Outcome.bind_eq_ok_iff.mpr
        ⟨clause, clauseOk,
          Outcome.bind_eq_ok_iff.mpr ⟨statement, furtherOk, rfl⟩⟩⟩

theorem exists_groups
    (allOk :
      ∀ group ∈ groups, ∃ composed, composer.group table group = .ok composed) :
    ∃ composed, composer.groups table groups = .ok composed := by
  induction groups with
  | nil => exact ⟨[], rfl⟩
  | cons group groups induction =>
      obtain ⟨⟨statement?, groupOk⟩, restOk⟩ := List.forall_mem_cons.mp allOk
      obtain ⟨others, othersOk⟩ := induction restOk
      cases statement? with
      | none =>
          exact ⟨others, by simp only [Composer.groups, groupOk, othersOk]; rfl⟩
      | some statement =>
          exact ⟨⟨group.name, statement⟩ :: others,
            by simp only [Composer.groups, groupOk, othersOk]; rfl⟩

end RecordSql.Composer
