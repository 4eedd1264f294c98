import RecordSql.Proofs.Outcome.Agreement
import RecordSql.Proofs.Predicate.Keys
import RecordSql.Proofs.Predicate.Restriction

/-!
# Predicates in two dialects

A dialect has a say in how a predicate is written, and in nothing else.  In two
dialects with the same formats a predicate has the same parameters, is refused
for the same reason, and is empty for the same criteria.
-/

namespace RecordSql

namespace Statement

/-- Statements with the same parameters, in the same order. -/
def SameParams (left right : Statement) : Prop := left.params = right.params

variable {left right : Statement}

theorem SameParams.sql (same : left.SameParams right) (text other : String) :
    (left.sql text).SameParams (right.sql other) := by
  simpa [SameParams] using same

theorem SameParams.param (same : left.SameParams right) (value : Param) :
    (left.param value).SameParams (right.param value) := by
  simpa [SameParams] using same

theorem SameParams.append {after other : Statement}
    (same : left.SameParams right) (further : after.SameParams other) :
    (left ++ after).SameParams (right ++ other) := by
  simpa [SameParams] using congrArg₂ (· ++ ·) same further

theorem sameParams_ofSql (text other : String) :
    (ofSql text).SameParams (ofSql other) := by
  simp [SameParams]

theorem sameParams_join (separator : String) {items others : List Statement}
    (same : List.Forall₂ SameParams items others) :
    (join separator items).SameParams (join separator others) := by
  rw [SameParams, params_join, params_join]
  induction same with
  | nil => rfl
  | cons first _ induction =>
      rw [List.flatMap_cons, List.flatMap_cons, induction, first]

@[simp] theorem params_whereClause (predicate : Statement) :
    predicate.whereClause.params = predicate.params := by
  unfold whereClause
  split
  · rfl
  · simp

end Statement

namespace Composer

open Statement

variable {first second : Composer} (formats : first.formats = second.formats)
  (table : Option Table)

/-- Both compose statements with the same parameters, or both refuse for
the same reason. -/
abbrev SameParams : Except Fault Statement → Except Fault Statement → Prop :=
  Outcome.Agree Eq Statement.SameParams

include formats

theorem keyParam_eq (name : String) (value : Value) :
    first.keyParam table name value = second.keyParam table name value := by
  rw [keyParam, keyParam, formats]

theorem sameParams_keyClause (name : String) (value : Value) :
    SameParams (first.keyClause table name value)
      (second.keyClause table name value) := by
  unfold keyClause
  rw [keyParam_eq formats]
  split
  · exact .ok ((sameParams_ofSql _ _).sql _ _)
  · apply (Outcome.Agree.same _).bind
    rintro bound _ rfl
    exact .ok (((sameParams_ofSql _ _).sql _ _).param bound)

theorem sameParams_keys (keys : Keys) :
    SameParams (first.keys table keys) (second.keys table keys) := by
  unfold Composer.keys
  split
  · exact .error rfl
  split
  · exact .error rfl
  apply (Outcome.Agree.mapM (fun entry : String × Value =>
    sameParams_keyClause formats table entry.1 entry.2) keys.entries).bind
  intro clauses others same
  exact .ok (sameParams_join " AND " same)

/-- What follows the name in a condition is the same text in every dialect. -/
theorem comparison_eq (column : Option Column) (condition : Condition) :
    first.comparison column condition = second.comparison column condition := by
  obtain ⟨dialect, _⟩ := first
  obtain ⟨other, _⟩ := second
  cases formats
  rfl

theorem sameParams_condition (condition : Condition) :
    SameParams (first.condition table condition)
      (second.condition table condition) := by
  unfold Composer.condition
  rw [comparison_eq formats]
  apply (Outcome.Agree.same _).bind
  rintro comparison _ rfl
  exact .ok ((sameParams_ofSql _ _).append rfl)

theorem sameParams_furtherConditions (conditions : List Condition)
    {left right : Statement} (same : left.SameParams right) :
    SameParams (first.furtherConditions table conditions left)
      (second.furtherConditions table conditions right) := by
  induction conditions generalizing left right with
  | nil => exact .ok same
  | cons next rest induction =>
      apply (sameParams_condition formats table next).bind
      intro clause other sameClause
      exact induction ((same.sql _ _).append sameClause)

theorem sameParams_group (group : ConditionGroup) :
    Outcome.Agree Eq (Option.Rel Statement.SameParams) (first.group table group)
      (second.group table group) := by
  unfold Composer.group
  split
  · exact .ok .none
  · next condition rest _ =>
      apply (sameParams_condition formats table condition).bind
      intro clause other sameClause
      apply (sameParams_furtherConditions formats table rest
        ((sameParams_ofSql _ _).append sameClause)).bind
      intro statement counterpart same
      exact .ok (.some (same.sql _ _))

omit formats in
/-- Groups of one name with the same parameters. -/
def ComposedGroup.SameParams (left right : ComposedGroup) : Prop :=
  left.name = right.name ∧ left.statement.SameParams right.statement

theorem sameParams_groups (groups : List ConditionGroup) :
    Outcome.Agree Eq (List.Forall₂ ComposedGroup.SameParams)
      (first.groups table groups) (second.groups table groups) := by
  induction groups with
  | nil => exact .ok .nil
  | cons group groups induction =>
      apply (sameParams_group formats table group).bind
      intro composed other sameGroup
      apply induction.bind
      intro others counterparts sameOthers
      cases sameGroup with
      | none => exact .ok sameOthers
      | some same => exact .ok (.cons ⟨rfl, same⟩ sameOthers)

omit formats in
private theorem sameParams_find {composed others : List ComposedGroup}
    (name : String)
    (same : List.Forall₂ ComposedGroup.SameParams composed others) :
    Option.Rel ComposedGroup.SameParams
      (composed.find? fun group => group.name == name)
      (others.find? fun group => group.name == name) := by
  induction same with
  | nil => exact .none
  | @cons group other composed others sameGroup _ induction =>
      rw [List.find?_cons, List.find?_cons, ← sameGroup.1]
      split
      · exact .some sameGroup
      · exact induction

omit formats in
private theorem sameParams_fillPieces {composed others : List ComposedGroup}
    (same : List.Forall₂ ComposedGroup.SameParams composed others)
    (pieces : List GroupMapPiece) {left right : Statement}
    (before : left.SameParams right) :
    SameParams (fillPieces composed pieces left)
      (fillPieces others pieces right) := by
  induction pieces generalizing left right with
  | nil => exact .ok before
  | cons piece pieces induction =>
      cases piece with
      | text text => exact induction (before.sql text text)
      | group name =>
          rw [fillPieces, fillPieces]
          have sameGroup := sameParams_find name same
          revert sameGroup
          cases composed.find? fun group => group.name == name <;>
            cases others.find? fun group => group.name == name <;> rintro ⟨⟩
          case none.none => exact .error rfl
          case some.some group other sameGroup =>
            exact induction (before.append sameGroup.2)

theorem sameParams_filter (filter : Filter) :
    SameParams (first.filter table filter) (second.filter table filter) := by
  apply (sameParams_groups formats table filter.groups).bind
  intro composed others same
  dsimp only
  split
  · exact sameParams_fillPieces same _ rfl
  · refine .ok (sameParams_join " OR " (List.forall₂_map_left_iff.mpr
      (List.forall₂_map_right_iff.mpr (same.imp ?_))))
    exact fun _ _ sameGroup => sameGroup.2

theorem sameParams_predicate (criteria : Criteria) :
    SameParams (first.predicate table criteria)
      (second.predicate table criteria) := by
  cases criteria with
  | all => exact .ok rfl
  | keys keys => exact sameParams_keys formats table keys
  | filter filter => exact sameParams_filter formats table filter

omit formats in
/-- Whether a predicate is empty is told by its criteria, for no keys at all are
refused. -/
theorem isEmpty_of_predicate {composer : Composer} {table : Option Table}
    {criteria : Criteria} {predicate : Statement}
    (composed : composer.predicate table criteria = .ok predicate) :
    predicate.isEmpty = criteria.selectsAll := by
  cases every : criteria.selectsAll with
  | false => exact (restricts_predicate composed every).1.isEmpty
  | true =>
      cases criteria with
      | all =>
          cases composed
          rfl
      | keys keys =>
          have present := (exists_keys_eq_ok_iff.mp ⟨predicate, composed⟩).1
          rw [Criteria.selectsAll, present] at every
          cases every
      | filter filter =>
          rw [Composer.predicate, filter_of_selectsAll every] at composed
          cases composed
          rfl

end Composer

end RecordSql
