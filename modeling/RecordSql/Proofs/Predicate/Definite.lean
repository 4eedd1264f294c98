import RecordSql.Proofs.Binding.Definite
import RecordSql.Proofs.Predicate.Confinement
import RecordSql.Proofs.Predicate.Elements
import RecordSql.Proofs.Predicate.Groups

/-!
# Predicates without nulls

A predicate never compares with null, nor with a double without a finite number.
Null operands are refused, and a null key is tested in the text, while every
other key is compared with one parameter.
-/

namespace RecordSql

namespace Statement

/-- Every parameter is neither null nor a double without a finite number. -/
def Definite (statement : Statement) : Prop :=
  ∀ param ∈ statement.params, param.Definite

variable {statement other : Statement} {value : Param}

@[simp] theorem definite_empty : empty.Definite := by
  intro param member
  cases member

@[simp] theorem definite_ofSql (text : String) : (ofSql text).Definite := by
  simp [Definite]

@[simp] theorem definite_sql_iff {text : String} :
    (statement.sql text).Definite ↔ statement.Definite := by
  simp [Definite]

@[simp] theorem definite_param_iff :
    (statement.param value).Definite ↔ statement.Definite ∧ value.Definite := by
  rw [Definite, params_param, List.forall_mem_append,
    List.forall_mem_singleton, Definite]

@[simp] theorem definite_append_iff :
    (statement ++ other).Definite ↔ statement.Definite ∧ other.Definite := by
  rw [Definite, params_append, List.forall_mem_append, Definite, Definite]

@[simp] theorem definite_join_iff {separator : String}
    {items : List Statement} :
    (join separator items).Definite ↔ ∀ item ∈ items, item.Definite := by
  simp only [Definite, params_join, List.forall_mem_flatMap]

@[simp] theorem definite_paramList_iff {params : List Param} :
    (Composer.paramList params).Definite ↔
      ∀ param ∈ params, param.Definite := by
  rw [Definite, Composer.params_paramList]

@[simp] theorem definite_whereClause_iff :
    statement.whereClause.Definite ↔ statement.Definite := by
  rw [Definite, params_whereClause, Definite]

end Statement

namespace Composer

variable {composer : Composer} {table : Option Table} {statement : Statement}

/-- A text or a time may follow the format of its column, and
nothing else does. -/
theorem definite_of_operand {column : Option Column} {operator : Operator}
    {value : Value} {param : Param}
    (bound : composer.operand column operator value = .ok param) :
    param.Definite := by
  have present : value ≠ .null := by
    rintro rfl
    cases bound
  have following : ∀ column : Column, (if column.kind.isTemporal then
      composer.formats.bind value column
          else composer.formats.bindOperand value) = .ok param →
        param.Definite := by
    intro column bound
    split at bound
    · exact Formats.definite_of_bind present bound
    · exact Formats.definite_of_bindOperand present bound
  unfold operand at bound
  split at bound
  · cases bound
  · exact following _ bound
  · exact following _ bound
  · exact following _ bound
  · exact Formats.definite_of_bindOperand present bound

private theorem definite_of_elementParam {column : Option Column}
    {element : String} {param : Param}
    (bound : composer.elementParam column element = .ok param) :
    param.Definite := by
  cases column with
  | none =>
      cases bound
      exact Param.definite_text element
  | some column =>
      simp only [elementParam] at bound
      split at bound
      · exact Formats.definite_of_bind (by simp) bound
      · cases bound
        exact Param.definite_text element

private theorem definite_of_listParams {column : Option Column}
    {operator : Operator} {value : Value} {params : List Param}
    (bound : composer.listParams column operator value = .ok params) :
    ∀ param ∈ params, param.Definite := by
  unfold listParams at bound
  split at bound
  · next text =>
      obtain ⟨elements, elementsOk, nonempty⟩ := Outcome.bind_eq_ok_iff.mp bound
      split at nonempty
      · cases nonempty
      · cases nonempty
        refine Outcome.forall_of_mapM_eq_ok ?_ elementsOk
        intro element param elementOk
        exact definite_of_elementParam elementOk
  · obtain ⟨param, operandOk, single⟩ := Outcome.bind_eq_ok_iff.mp bound
    cases single
    simpa using definite_of_operand operandOk

private theorem definite_of_comparison {column : Option Column}
    {condition : Condition}
    (composed : composer.comparison column condition = .ok statement) :
    statement.Definite := by
  obtain ⟨field, operator, operand, upper, logic⟩ := condition
  cases operator
  case isNull | notNull =>
    cases composed
    simp
  case equal | notEqual | greater | less | greaterOrEqual | lessOrEqual =>
    obtain ⟨param, bound, built⟩ := Outcome.bind_eq_ok_iff.mp composed
    cases built
    simpa using definite_of_operand bound
  case contains | startsWith | endsWith =>
    obtain ⟨text, _, built⟩ := Outcome.bind_eq_ok_iff.mp composed
    cases built
    simp [Param.definite_text]
  case inList | notInList =>
    obtain ⟨params, bound, built⟩ := Outcome.bind_eq_ok_iff.mp composed
    cases built
    simpa using definite_of_listParams bound
  case between | notBetween =>
    cases upper with
    | none => cases composed
    | some upper =>
        obtain ⟨lower, lowerOk, continued⟩ := Outcome.bind_eq_ok_iff.mp composed
        obtain ⟨higher, higherOk, built⟩ := Outcome.bind_eq_ok_iff.mp continued
        cases built
        simp [definite_of_operand lowerOk, definite_of_operand higherOk]
  case regexp =>
    obtain ⟨text, _, built⟩ := Outcome.bind_eq_ok_iff.mp composed
    dsimp only at built
    split at built
    · cases built
    · cases built
      simp [Param.definite_text]

private theorem definite_of_condition {condition : Condition}
    (composed : composer.condition table condition = .ok statement) :
    statement.Definite := by
  obtain ⟨comparison, compared, sameParams⟩ := params_of_condition composed
  have definite := definite_of_comparison compared
  rwa [Statement.Definite, ← sameParams] at definite

private theorem definite_of_groups {groups : List ConditionGroup}
    {composed : List ComposedGroup}
    (succeeded : composer.groups table groups = .ok composed) :
    ∀ group ∈ composed, group.statement.Definite := by
  intro group member param inGroup
  obtain ⟨clauses, clausesOk, params⟩ := clauses_of_groups succeeded
  have bound : param ∈ clauses.flatMap Statement.params :=
    params ▸ List.mem_flatMap_of_mem (List.mem_map_of_mem member) inGroup
  obtain ⟨clause, inClauses, inClause⟩ := List.mem_flatMap.mp bound
  obtain ⟨condition, _, clauseOk⟩ :=
    exists_condition_of_composes clausesOk inClauses
  exact definite_of_condition clauseOk param inClause

/-- However often a group is written into a group map, its
parameters are its own. -/
private theorem definite_of_fillPieces {composed : List ComposedGroup}
    {pieces : List GroupMapPiece} {before : Statement}
    (filled : fillPieces composed pieces before = .ok statement)
    (definiteGroups : ∀ group ∈ composed, group.statement.Definite)
    (definite : before.Definite) : statement.Definite := by
  induction pieces generalizing before with
  | nil =>
      cases filled
      exact definite
  | cons piece pieces induction =>
      cases piece with
      | text text =>
          exact induction filled (Statement.definite_sql_iff.mpr definite)
      | group name =>
          rw [fillPieces] at filled
          split at filled
          · cases filled
          · next group found =>
              apply induction filled
              simp [definite,
                definiteGroups group (List.mem_of_find?_eq_some found)]

theorem definite_of_filter {filter : Filter}
    (composed : composer.filter table filter = .ok statement) :
    statement.Definite := by
  obtain ⟨groups, groupsOk, built⟩ := Outcome.bind_eq_ok_iff.mp composed
  have definiteGroups := definite_of_groups groupsOk
  dsimp only at built
  split at built
  · exact definite_of_fillPieces built definiteGroups Statement.definite_empty
  · cases built
    simpa using definiteGroups

/-- What becomes of a key: a null one is tested, any other is compared
with one parameter. -/
inductive Conjunct (composer : Composer) :
    String × Value → Statement → Prop where
  | tested (name : String) :
      Conjunct composer (name, .null)
        (.ofSql (composer.quote name ++ " IS NULL"))
  | compared {name : String} {value : Value} {param : Param} :
      value ≠ .null → param.Definite →
        Conjunct composer (name, value)
          ((Statement.ofSql (composer.quote name ++ " = ")).param param)

/-- A predicate has one conjunct for each key, in the order of the keys. -/
structure Conjoins (composer : Composer) (keys : Keys)
    (predicate : Statement) : Prop where
  conjuncts : ∃ clauses, List.Forall₂ composer.Conjunct keys.entries clauses ∧
    predicate = .join " AND " clauses
  /-- Every key that is not null has one parameter, and a null one has none. -/
  params : predicate.params.length = keys.entries.countP fun entry =>
    !entry.2.isNull

private theorem conjunct_of_keyClause {name : String} {value : Value}
    (composed : composer.keyClause table name value = .ok statement) :
    composer.Conjunct (name, value) statement := by
  cases keyClause_eq_ok_iff.mp composed with
  | null name => exact .tested name
  | equal present binds =>
      refine .compared present ?_
      cases binds with
      | byColumn _ bound => exact Formats.definite_of_bind present bound
      | byKind _ bound => exact Formats.definite_of_bindOperand present bound

/-- Every conjunct has a parameter if its key is not null. -/
private theorem length_params_join {separator : String}
    {entries : List (String × Value)} {clauses : List Statement}
    (conjuncts : List.Forall₂ composer.Conjunct entries clauses) :
    (Statement.join separator clauses).params.length =
      entries.countP fun entry => !entry.2.isNull := by
  rw [Statement.params_join]
  induction conjuncts with
  | nil => rfl
  | cons first _ induction =>
      rw [List.flatMap_cons, List.length_append, induction, List.countP_cons,
        Nat.add_comm]
      congr 1
      cases first with
      | tested name => simp [Value.isNull]
      | @compared name value param notNull definite =>
          simp [Value.isNull_iff, notNull]

theorem conjoins_of_keys {keys : Keys}
    (composed : composer.keys table keys = .ok statement) :
    composer.Conjoins keys statement := by
  obtain ⟨clauses, _, rfl, clausesOk⟩ := clauses_of_keys composed
  have conjuncts : List.Forall₂ composer.Conjunct keys.entries clauses :=
    clausesOk.imp fun _ _ => conjunct_of_keyClause
  exact ⟨⟨clauses, conjuncts, rfl⟩, length_params_join conjuncts⟩

private theorem Conjunct.definite {entry : String × Value}
    (conjunct : composer.Conjunct entry statement) : statement.Definite := by
  cases conjunct with
  | tested name => exact Statement.definite_ofSql _
  | compared _ definite => simp [definite]

private theorem definite_of_conjuncts {entries : List (String × Value)}
    {clauses : List Statement}
    (conjuncts : List.Forall₂ composer.Conjunct entries clauses) :
    ∀ clause ∈ clauses, clause.Definite := by
  induction conjuncts with
  | nil => simp
  | cons first _ induction =>
      exact List.forall_mem_cons.mpr ⟨first.definite, induction⟩

theorem Conjoins.definite {keys : Keys}
    (conjoins : composer.Conjoins keys statement) : statement.Definite := by
  obtain ⟨clauses, conjuncts, rfl⟩ := conjoins.conjuncts
  exact Statement.definite_join_iff.mpr (definite_of_conjuncts conjuncts)

/-- The predicate of any criteria is definite. -/
theorem definite_of_predicate {criteria : Criteria}
    (composed : composer.predicate table criteria = .ok statement) :
    statement.Definite := by
  cases criteria with
  | all =>
      cases composed
      exact Statement.definite_empty
  | keys keys => exact (conjoins_of_keys composed).definite
  | filter filter => exact definite_of_filter composed

end Composer

end RecordSql
