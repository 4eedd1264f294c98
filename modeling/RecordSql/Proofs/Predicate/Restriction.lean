import RecordSql.Proofs.Predicate.Form
import RecordSql.Proofs.Statement.Parts
import RecordSql.Proofs.Text

/-!
# What predicates restrict

The predicate of keys is the conjunction of their clauses, and the
predicate of a filter without a group map has the clause of every condition
in it.  A predicate is visible or empty, and it is empty only for criteria
that select every record.
-/

namespace RecordSql

/-- No record is left out. -/
def Criteria.selectsAll : Criteria → Bool
  | .all => true
  | .keys given => given.isEmpty
  | .filter given =>
      !given.hasConditions && (given.groupMap.map Text.trim).getD "" == ""

namespace Composer

/-- A predicate restricts by each of the criteria.  What a group map restricts
by is its own affair. -/
def Restricts (composer : Composer) (table : Option Table) :
    Criteria → Statement → Prop
  | .all, _ => False
  | .keys keys, predicate =>
    keys.isEmpty = false ∧ ∃ clauses, predicate = .join " AND " clauses ∧
      List.Forall₂ (fun entry clause =>
        composer.keyClause table entry.1 entry.2 = .ok clause)
        keys.entries clauses
  | .filter filter, predicate =>
    (filter.groupMap.map Text.trim).getD "" = "" →
      filter.hasConditions = true ∧
        ∀ group ∈ filter.groups, ∀ condition ∈ group.conditions, ∃ clause,
          composer.condition table condition = .ok clause ∧
            predicate.Contains clause

variable {composer : Composer} {table : Option Table} {statement : Statement}

private theorem visible_keyClause {name : String} {value : Value}
    (composed : composer.keyClause table name value = .ok statement) :
    statement.Visible := by
  cases keyClause_eq_ok_iff.mp composed with
  | null name =>
      rw [← Statement.ofSql_sql]
      exact Statement.visible_sql _ (by decide)
  | @equal _ _ param =>
      rw [← Statement.ofSql_sql]
      exact (Statement.visible_sql _ (by decide)).param param

private theorem restricts_keys {keys : Keys}
    (composed : composer.keys table keys = .ok statement) :
    statement.Visible ∧ composer.Restricts table (.keys keys) statement := by
  obtain ⟨clauses, present, rfl, clausesOk⟩ := clauses_of_keys composed
  refine ⟨?_, ?_, clauses, rfl, clausesOk⟩
  · obtain ⟨clause, others, rfl⟩ := List.exists_cons_of_ne_nil present
    obtain ⟨entry, _, clauseOk, _, _⟩ :=
      List.forall₂_cons_right_iff.mp clausesOk
    exact (Statement.contains_join List.mem_cons_self).visible
      (visible_keyClause clauseOk)
  · cases none : keys.isEmpty with
    | false => rfl
    | true =>
        rw [List.isEmpty_iff.mp none] at clausesOk
        exact absurd (List.forall₂_nil_left_iff.mp clausesOk) present

private theorem isAllBlank_token (operator : Operator) :
    Text.isAllBlank (" " ++ operator.token ++ " ") = false := by
  cases operator <;> decide

private theorem visible_comparison {column : Option Column}
    {condition : Condition}
    (composed : composer.comparison column condition = .ok statement) :
    statement.Visible := by
  obtain ⟨field, operator, operand, upper, logic⟩ := condition
  cases operator
  case isNull | notNull =>
    cases composed
    exact Statement.visible_ofSql (by decide)
  case equal | notEqual | greater | less | greaterOrEqual | lessOrEqual =>
    obtain ⟨param, _, built⟩ := Outcome.bind_eq_ok_iff.mp composed
    cases built
    exact (Statement.visible_ofSql (isAllBlank_token _)).param param
  case contains | startsWith | endsWith =>
    obtain ⟨text, _, built⟩ := Outcome.bind_eq_ok_iff.mp composed
    cases built
    exact (Statement.visible_ofSql (by decide)).param _
  case inList | notInList =>
    obtain ⟨params, _, built⟩ := Outcome.bind_eq_ok_iff.mp composed
    cases built
    exact Statement.visible_sql _ (by decide)
  case between | notBetween =>
    cases upper with
    | none => cases composed
    | some upper =>
        obtain ⟨lower, _, continued⟩ := Outcome.bind_eq_ok_iff.mp composed
        obtain ⟨higher, _, built⟩ := Outcome.bind_eq_ok_iff.mp continued
        cases built
        exact (Statement.visible_sql _ (by decide)).param higher
  case regexp =>
    obtain ⟨text, _, built⟩ := Outcome.bind_eq_ok_iff.mp composed
    dsimp only at built
    split at built
    · cases built
    · cases built
      exact (Statement.visible_ofSql (by decide)).param _

private theorem visible_condition {condition : Condition}
    (composed : composer.condition table condition = .ok statement) :
    statement.Visible := by
  obtain ⟨comparison, compared, built⟩ := Outcome.bind_eq_ok_iff.mp composed
  cases built
  exact (Statement.contains_append _ _).visible (visible_comparison compared)

theorem contains_of_furtherConditions {rest : List Condition}
    {before : Statement}
    (composed : composer.furtherConditions table rest before = .ok statement) :
    (∃ after, statement = before ++ after) ∧
      ∀ condition ∈ rest, ∃ clause,
        composer.condition table condition = .ok clause ∧
          statement.Contains clause := by
  induction rest generalizing before with
  | nil =>
      cases composed
      exact ⟨⟨.empty, rfl⟩, by simp⟩
  | cons next rest induction =>
      obtain ⟨clause, nextOk, continued⟩ := Outcome.bind_eq_ok_iff.mp composed
      obtain ⟨⟨after, rfl⟩, contained⟩ := induction continued
      refine ⟨⟨Statement.ofSql (" " ++ next.logic.keyword ++ " ") ++
        clause ++ after, ?_⟩, ?_⟩
      · simp only [← Statement.append_ofSql, Statement.append_assoc]
      · rw [List.forall_mem_cons]
        exact ⟨⟨clause, nextOk, (Statement.contains_append _ _).append after⟩,
          contained⟩

theorem contains_of_group {group : ConditionGroup}
    {statement? : Option Statement}
    (composed : composer.group table group = .ok statement?) :
    (∀ statement ∈ statement?, statement.Visible) ∧
      ∀ condition ∈ group.conditions, ∃ clause,
        composer.condition table condition = .ok clause ∧
          ∃ statement ∈ statement?, statement.Contains clause := by
  obtain ⟨name, conditions⟩ := group
  cases conditions with
  | nil =>
      cases composed
      simp
  | cons first rest =>
      obtain ⟨clause, firstOk, further⟩ := Outcome.bind_eq_ok_iff.mp composed
      obtain ⟨statement, furtherOk, closed⟩ := Outcome.bind_eq_ok_iff.mp further
      cases closed
      obtain ⟨⟨after, rfl⟩, contained⟩ :=
        contains_of_furtherConditions furtherOk
      constructor
      · rintro _ ⟨⟩
        exact Statement.visible_sql _ (by decide)
      · rw [List.forall_mem_cons]
        constructor
        · exact ⟨clause, firstOk, _, rfl,
            ((Statement.contains_append _ _).append after).sql _⟩
        · intro condition member
          obtain ⟨clause, clauseOk, contains⟩ := contained condition member
          exact ⟨clause, clauseOk, _, rfl, contains.sql _⟩

private theorem contains_of_groups {groups : List ConditionGroup}
    {composed : List ComposedGroup}
    (succeeded : composer.groups table groups = .ok composed) :
    (∀ group ∈ composed, group.statement.Visible) ∧
      ∀ group ∈ groups, ∀ condition ∈ group.conditions, ∃ clause,
        composer.condition table condition = .ok clause ∧
          ∃ item ∈ composed, item.statement.Contains clause := by
  induction groups generalizing composed with
  | nil =>
      cases succeeded
      simp
  | cons group groups induction =>
      obtain ⟨statement?, first, continued⟩ :=
        Outcome.bind_eq_ok_iff.mp succeeded
      obtain ⟨others, restOk, combined⟩ := Outcome.bind_eq_ok_iff.mp continued
      obtain ⟨visible, contained⟩ := contains_of_group first
      obtain ⟨othersVisible, othersContained⟩ := induction restOk
      cases statement? with
      | none =>
          cases combined
          refine ⟨othersVisible, List.forall_mem_cons.mpr ⟨?_, othersContained⟩⟩
          intro condition member
          obtain ⟨_, _, _, absent, _⟩ := contained condition member
          cases absent
      | some statement =>
          cases combined
          refine ⟨List.forall_mem_cons.mpr
            ⟨visible statement rfl, othersVisible⟩,
            List.forall_mem_cons.mpr ⟨?_, ?_⟩⟩
          · intro condition member
            obtain ⟨clause, clauseOk, _, ⟨⟩, contains⟩ :=
              contained condition member
            exact ⟨clause, clauseOk, _, List.mem_cons_self, contains⟩
          · intro other inGroups condition member
            obtain ⟨clause, clauseOk, item, inOthers, contains⟩ :=
              othersContained other inGroups condition member
            exact ⟨clause, clauseOk, item,
              List.mem_cons_of_mem _ inOthers, contains⟩

/-- Groups without conditions are left out. -/
private theorem groups_eq_nil {groups : List ConditionGroup}
    (unconditional :
      (groups.any fun group => !group.conditions.isEmpty) = false) :
    composer.groups table groups = .ok [] := by
  induction groups with
  | nil => rfl
  | cons group groups induction =>
      obtain ⟨name, conditions⟩ := group
      rw [List.any_cons, Bool.or_eq_false_iff] at unconditional
      obtain ⟨nothing, others⟩ := unconditional
      obtain rfl : conditions = [] := by simpa using nothing
      simp only [Composer.groups, induction others]
      rfl

/-- What is left of a text when it is trimmed is not blank, unless
nothing is left. -/
private theorem isAllBlank_trim {text : String}
    (present : Text.trim text ≠ "") :
    Text.isAllBlank (Text.trim text) = false := by
  rwa [← Bool.not_eq_true, ← Text.trim_eq_empty_iff, Text.trim_trim]

/-- A piece that is sure to be seen: a group, or a text that is not blank. -/
private def IsSeen : GroupMapPiece → Prop
  | .text text => Text.isAllBlank text = false
  | .group _ => True

/-- What is written so far is visible, or a piece still to come will be. -/
private theorem visible_fillPieces {composed : List ComposedGroup}
    (visible : ∀ group ∈ composed, group.statement.Visible)
    {pieces : List GroupMapPiece} {before : Statement}
    (filled : fillPieces composed pieces before = .ok statement)
    (seen : before.Visible ∨ ∃ piece ∈ pieces, IsSeen piece) :
    statement.Visible := by
  induction pieces generalizing before with
  | nil =>
      cases filled
      simpa using seen
  | cons piece pieces induction =>
      cases piece with
      | text text =>
          apply induction filled
          rcases seen with already | ⟨piece, member, seen⟩
          · exact .inl (already.sql text)
          · rcases List.mem_cons.mp member with rfl | later
            · exact .inl (Statement.visible_sql before seen)
            · exact .inr ⟨piece, later, seen⟩
      | group name =>
          rw [fillPieces] at filled
          split at filled
          · cases filled
          next group found =>
            have shown := visible group (List.mem_of_find?_eq_some found)
            exact induction filled
              (.inl ((Statement.contains_append _ _).visible shown))

private theorem exists_seen (declared : List String) {segments : List String}
    (present : segments ≠ [])
    (single : ∀ last, segments = [last] → Text.isAllBlank last = false) :
    ∃ piece ∈ groupMapPieces declared segments, IsSeen piece := by
  match segments with
  | [] => exact absurd rfl present
  | [last] => exact ⟨.text last, by simp [groupMapPieces], single last rfl⟩
  | [first, last] => exact ⟨.text ":", by simp [groupMapPieces], rfl⟩
  | first :: name :: next :: rest =>
      rw [groupMapPieces]
      split
      · exact ⟨.group name, by simp, trivial⟩
      · exact ⟨.text ":", by simp, rfl⟩

private theorem visible_groupMap {template : String} {declared : List String}
    {composed : List ComposedGroup}
    (visible : ∀ group ∈ composed, group.statement.Visible)
    (present : Text.isAllBlank template = false)
    (filled : groupMap template declared composed = .ok statement) :
    statement.Visible := by
  apply visible_fillPieces visible filled
  right
  apply exists_seen
  · intro nothing
    exact Text.splitOn_ne_nil _ _ (List.map_eq_nil_iff.mp nothing)
  · intro last alone
    obtain ⟨segment, cut, rfl⟩ := List.map_eq_singleton_iff.mp alone
    have whole := Text.intercalate_splitOn ':' template.toList
    rw [cut, List.intercalate_singleton] at whole
    rwa [whole, String.ofList_toList]

/-- Without a group map the groups are joined; with one, its text alone decides
which are used. -/
private theorem restricts_filter {filter : Filter}
    (composed : composer.filter table filter = .ok statement)
    (selective : (Criteria.filter filter).selectsAll = false) :
    statement.Visible ∧
      composer.Restricts table (.filter filter) statement := by
  obtain ⟨groups, groupsOk, built⟩ := Outcome.bind_eq_ok_iff.mp composed
  obtain ⟨visible, contained⟩ := contains_of_groups groupsOk
  by_cases untemplated : (filter.groupMap.map Text.trim).getD "" = ""
  · simp only [untemplated, ne_eq, not_true, if_false] at built
    cases built
    have present : filter.hasConditions = true := by
      simpa [Criteria.selectsAll, untemplated] using selective
    have contains : ∀ group ∈ filter.groups,
        ∀ condition ∈ group.conditions, ∃ clause,
          composer.condition table condition = .ok clause ∧
            (Statement.join " OR "
              (groups.map ComposedGroup.statement)).Contains clause := by
      intro group inGroups condition member
      obtain ⟨clause, clauseOk, item, inComposed, contains⟩ :=
        contained group inGroups condition member
      have joined :
        (Statement.join " OR " (groups.map ComposedGroup.statement)).Contains
          item.statement :=
            Statement.contains_join (List.mem_map_of_mem inComposed)
      exact ⟨clause, clauseOk, joined.trans contains⟩
    refine ⟨?_, fun _ => ⟨present, contains⟩⟩
    obtain ⟨group, inGroups, nonempty⟩ := List.any_eq_true.mp present
    obtain ⟨condition, member⟩ :=
      List.exists_mem_of_ne_nil group.conditions (by simpa using nonempty)
    obtain ⟨clause, clauseOk, contains⟩ :=
      contains group inGroups condition member
    exact contains.visible (visible_condition clauseOk)
  · simp only [untemplated, ne_eq, not_false_eq_true, if_true] at built
    refine ⟨?_, fun empty => absurd empty untemplated⟩
    apply visible_groupMap visible _ built
    cases given : filter.groupMap with
    | none => simp [given] at untemplated
    | some template =>
        exact isAllBlank_trim (by simpa [given] using untemplated)

theorem restricts_predicate {criteria : Criteria}
    (composed : composer.predicate table criteria = .ok statement)
    (selective : criteria.selectsAll = false) :
    statement.Visible ∧ composer.Restricts table criteria statement := by
  cases criteria with
  | all => cases selective
  | keys given => exact restricts_keys composed
  | filter given => exact restricts_filter composed selective

theorem filter_of_selectsAll {filter : Filter}
    (every : (Criteria.filter filter).selectsAll = true) :
    composer.filter table filter = .ok .empty := by
  simp only [Criteria.selectsAll, Bool.and_eq_true,
    Bool.not_eq_true', beq_iff_eq] at every
  obtain ⟨unconditional, untemplated⟩ := every
  refine Outcome.bind_eq_ok_iff.mpr ⟨[], groups_eq_nil unconditional, ?_⟩
  simp only [untemplated, ne_eq, not_true, if_false]
  rfl

end Composer

end RecordSql
