import RecordSql.Proofs.Predicate.KeyClause
import RecordSql.Proofs.Statement.Form

/-!
# Forms of predicates

The form of a composed predicate can be told without its operands: from the
names, the operators, the logic, the number of elements in each list and
which keys are null.  Neither the temporal formats nor the columns of the
table have a part in it.
-/

namespace RecordSql

/-- The number of elements of a list operand; an operand that is
no text is one. -/
def Value.elementCount : Value → Nat
  | .string text => (Composer.listElements text).length
  | _ => 1

/-- The number of operands of a condition, with every element of
a list counted. -/
def Condition.operandCount (condition : Condition) : Nat :=
  match condition.operator with
  | .inList | .notInList => condition.operand.elementCount
  | operator => operator.operandCount

/-- What follows the name in a condition with so many operands,
without their values. -/
def Operator.form (operator : Operator) (count : Nat) : Statement :=
  match operator with
  | .isNull => .ofSql " IS NULL"
  | .notNull => .ofSql " IS NOT NULL"
  | .equal | .notEqual | .greater | .less | .greaterOrEqual | .lessOrEqual =>
    (Statement.ofSql (" " ++ operator.token ++ " ")).param .null
  | .contains | .startsWith | .endsWith =>
      (Statement.ofSql " LIKE ").param .null
  | .inList =>
    (Statement.ofSql " IN (" ++ Composer.paramList (.replicate count .null)).sql
      ")"
  | .notInList =>
    (Statement.ofSql " NOT IN (" ++
      Composer.paramList (.replicate count .null)).sql ")"
  | .between =>
      (((Statement.ofSql " BETWEEN ").param .null).sql " AND ").param .null
  | .notBetween =>
      (((Statement.ofSql " NOT BETWEEN ").param .null).sql " AND ").param .null
  | .regexp => (Statement.ofSql " REGEXP ").param .null

/-- A condition without the values of its operands. -/
def Condition.form (dialect : Dialect) (condition : Condition) : Statement :=
  Statement.ofSql (dialect.quoteName condition.field) ++
    condition.operator.form condition.operandCount

/-- The conditions of a group after its first, each after its logic. -/
def Condition.furtherForm (dialect : Dialect) : List Condition → Statement
  | [] => .empty
  | next :: rest =>
    Statement.ofSql (" " ++ next.logic.keyword ++ " ") ++ next.form dialect ++
      furtherForm dialect rest

/-- The groups that have conditions, without the values of their operands. -/
def ConditionGroup.forms (dialect : Dialect) :
    List ConditionGroup → List Composer.ComposedGroup
  | [] => []
  | ⟨_, []⟩ :: others => forms dialect others
  | ⟨name, first :: rest⟩ :: others =>
    ⟨name, (Statement.ofSql "(" ++ first.form dialect ++
      Condition.furtherForm dialect rest).sql ")"⟩ :: forms dialect others

/-- The predicate of a filter without the values of its operands. -/
def Filter.form (dialect : Dialect) (filter : Filter) :
    Except Fault Statement :=
  let composed := ConditionGroup.forms dialect filter.groups
  let template := (filter.groupMap.map Text.trim).getD ""
  if template ≠ "" then
    Composer.groupMap template (filter.groups.map ConditionGroup.name) composed
  else
    .ok (Statement.join " OR " (composed.map Composer.ComposedGroup.statement))

/-- The conjunct of a key, which may be null, without its value. -/
def Keys.entryForm (dialect : Dialect) (name : String) (isNull : Bool) :
    Statement :=
  if isNull then (Statement.ofSql (dialect.quoteName name)).sql " IS NULL"
  else ((Statement.ofSql (dialect.quoteName name)).sql " = ").param .null

/-- The conjunction of keys without their values. -/
def Keys.form (dialect : Dialect) (keys : Keys) : Statement :=
  .join " AND "
    (keys.entries.map fun entry => entryForm dialect entry.1 entry.2.isNull)

namespace Composer

variable {composer : Composer} {table : Option Table}

theorem paramList_eq_join (params : List Param) :
    paramList params = Statement.join ", "
      (params.map fun param => Statement.empty.param param) := by
  cases params with
  | nil => rfl
  | cons first rest =>
      rw [List.map_cons, Statement.join, List.foldl_map]
      rfl

private theorem paramList_form (params : List Param) :
    (paramList params).form =
      paramList (List.replicate params.length .null) := by
  simp [paramList_eq_join, Statement.form_join, Function.comp_def,
    List.map_const']

theorem length_of_listParams {column : Option Column} {operator : Operator}
    {value : Value} {params : List Param}
    (bound : composer.listParams column operator value = .ok params) :
    params.length = value.elementCount ∧ 0 < params.length := by
  unfold listParams at bound
  cases value
  case string text =>
    obtain ⟨elements, boundElements, nonempty⟩ :=
      Outcome.bind_eq_ok_iff.mp bound
    have sameLength := (Outcome.mapM_eq_ok_iff.mp boundElements).length_eq
    cases elements with
    | nil => cases nonempty
    | cons first rest =>
        cases nonempty
        exact ⟨sameLength.symm, Nat.succ_pos _⟩
  all_goals
    obtain ⟨param, _, single⟩ := Outcome.bind_eq_ok_iff.mp bound
    cases single
    exact ⟨rfl, Nat.one_pos⟩

theorem form_comparison {column : Option Column} {condition : Condition}
    {statement : Statement}
    (composed : composer.comparison column condition = .ok statement) :
    statement.form = condition.operator.form condition.operandCount := by
  obtain ⟨field, operator, operand, upper, logic⟩ := condition
  cases operator
  case isNull | notNull =>
    cases composed
    simp [Operator.form]
  case equal | notEqual | greater | less | greaterOrEqual | lessOrEqual =>
    obtain ⟨param, _, built⟩ := Outcome.bind_eq_ok_iff.mp composed
    cases built
    simp [Operator.form]
  case contains | startsWith | endsWith =>
    obtain ⟨text, _, built⟩ := Outcome.bind_eq_ok_iff.mp composed
    cases built
    simp [Operator.form]
  case inList | notInList =>
    obtain ⟨params, bound, built⟩ := Outcome.bind_eq_ok_iff.mp composed
    cases built
    simp [Operator.form, Condition.operandCount, paramList_form,
      (length_of_listParams bound).1]
  case between | notBetween =>
    cases upper with
    | none => cases composed
    | some upper =>
        obtain ⟨lower, _, continued⟩ := Outcome.bind_eq_ok_iff.mp composed
        obtain ⟨higher, _, built⟩ := Outcome.bind_eq_ok_iff.mp continued
        cases built
        simp [Operator.form]
  case regexp =>
    obtain ⟨text, _, built⟩ := Outcome.bind_eq_ok_iff.mp composed
    cases none : (alternatives text).isEmpty with
    | true => simp [none] at built
    | false =>
        simp [none, pure, Except.pure] at built
        rw [← built]
        simp [Operator.form]

theorem form_condition {condition : Condition} {statement : Statement}
    (composed : composer.condition table condition = .ok statement) :
    statement.form = condition.form composer.dialect := by
  obtain ⟨comparison, compared, built⟩ := Outcome.bind_eq_ok_iff.mp composed
  cases built
  simp [Condition.form, quote, form_comparison compared]

private theorem form_furtherConditions {rest : List Condition}
    {before statement : Statement}
    (composed : composer.furtherConditions table rest before = .ok statement) :
    statement.form =
      before.form ++ Condition.furtherForm composer.dialect rest := by
  induction rest generalizing before with
  | nil =>
      cases composed
      rfl
  | cons next rest induction =>
      obtain ⟨clause, first, continued⟩ := Outcome.bind_eq_ok_iff.mp composed
      rw [induction continued, Condition.furtherForm]
      simp only [Statement.form_append, Statement.form_ofSql,
        form_condition first, ← Statement.append_ofSql, Statement.append_assoc]

/-- A composed group without the values of its operands. -/
def ComposedGroup.form (group : ComposedGroup) : ComposedGroup :=
  ⟨group.name, group.statement.form⟩

theorem form_groups {groups : List ConditionGroup}
    {composed : List ComposedGroup}
    (succeeded : composer.groups table groups = .ok composed) :
    composed.map ComposedGroup.form =
      ConditionGroup.forms composer.dialect groups := by
  induction groups generalizing composed with
  | nil =>
      cases succeeded
      rfl
  | cons group groups induction =>
      obtain ⟨name, conditions⟩ := group
      obtain ⟨statement?, first, continued⟩ :=
        Outcome.bind_eq_ok_iff.mp succeeded
      obtain ⟨others, restOk, combined⟩ := Outcome.bind_eq_ok_iff.mp continued
      cases conditions with
      | nil =>
          cases first
          cases combined
          exact induction restOk
      | cons condition conditions =>
          obtain ⟨clause, headOk, further⟩ := Outcome.bind_eq_ok_iff.mp first
          obtain ⟨statement, tailOk, closed⟩ :=
            Outcome.bind_eq_ok_iff.mp further
          cases closed
          cases combined
          simp [ConditionGroup.forms, ComposedGroup.form, induction restOk,
            form_furtherConditions tailOk, form_condition headOk,
            Statement.append_assoc]

private theorem fillPieces_form {composed : List ComposedGroup}
    {pieces : List GroupMapPiece} {before statement : Statement}
    (filled : fillPieces composed pieces before = .ok statement) :
    fillPieces (composed.map ComposedGroup.form) pieces before.form =
      .ok statement.form := by
  induction pieces generalizing before with
  | nil =>
      cases filled
      rfl
  | cons piece pieces induction =>
      cases piece with
      | text text =>
          have continued := induction filled
          rwa [Statement.form_sql] at continued
      | group name =>
          have sameName : (fun group : ComposedGroup => group.name == name) ∘
              ComposedGroup.form = fun group => group.name == name := rfl
          rw [fillPieces] at filled ⊢
          rw [List.find?_map, sameName]
          cases found : composed.find? fun group => group.name == name with
          | none => simp [found] at filled
          | some group =>
              simp only [found] at filled
              have continued := induction filled
              rwa [Statement.form_append] at continued

/-- The form of a filter's predicate is told by the filter alone. -/
theorem form_filter {filter : Filter} {statement : Statement}
    (composed : composer.filter table filter = .ok statement) :
    filter.form composer.dialect = .ok statement.form := by
  obtain ⟨groups, grouped, built⟩ := Outcome.bind_eq_ok_iff.mp composed
  unfold Filter.form
  rw [← form_groups grouped]
  by_cases untemplated : (filter.groupMap.map Text.trim).getD "" = ""
  · simp only [untemplated, ne_eq, not_true, if_false] at built ⊢
    cases built
    rw [Statement.form_join, List.map_map, List.map_map]
    rfl
  · simp only [untemplated, ne_eq, not_false_eq_true, if_true] at built ⊢
    exact fillPieces_form built

private theorem form_keyClause {name : String} {value : Value}
    {statement : Statement}
    (composed : composer.keyClause table name value = .ok statement) :
    statement.form = Keys.entryForm composer.dialect name value.isNull := by
  cases keyClause_eq_ok_iff.mp composed with
  | null name =>
      simp [Keys.entryForm, quote, Value.isNull, Statement.ofSql_sql]
  | equal present _ =>
      simp [Keys.entryForm, quote, Value.isNull_eq_false_iff.mpr present,
        Statement.ofSql_sql]

private theorem form_keyClauses {entries : List (String × Value)}
    {clauses : List Statement}
    (composed :
      List.Forall₂ (fun entry clause =>
        composer.keyClause table entry.1 entry.2 = .ok clause)
        entries clauses) : clauses.map Statement.form =
      entries.map fun entry =>
        Keys.entryForm composer.dialect entry.1 entry.2.isNull := by
  induction composed with
  | nil => rfl
  | cons first _ induction => simp [form_keyClause first, induction]

/-- Keys are refused if there are none or if a name is blank, whatever their
values are.  All others are composed one by one. -/
theorem keys_cases (composer : Composer) (table : Option Table) (keys : Keys) :
    (keys.entries = [] ∧ composer.keys table keys = .error .emptyKeySet) ∨
      (keys.entries ≠ [] ∧
        (∃ entry ∈ keys.entries, Text.isAllBlank entry.1 = true) ∧
        composer.keys table keys = .error .emptyKeyName) ∨
      (keys.entries ≠ [] ∧
        (∀ entry ∈ keys.entries, Text.isAllBlank entry.1 = false) ∧
        composer.keys table keys =
          Statement.join " AND " <$>
            keys.entries.mapM fun entry =>
              composer.keyClause table entry.1 entry.2) := by
  unfold Composer.keys Keys.isEmpty
  by_cases nothing : keys.entries = []
  · exact .inl ⟨nothing, by simp [nothing]⟩
  rw [if_neg (by simp [nothing])]
  by_cases blank : ∃ entry ∈ keys.entries, Text.isAllBlank entry.1 = true
  · exact .inr (.inl ⟨nothing, blank, if_pos (List.any_eq_true.mpr blank)⟩)
  · rw [if_neg (mt List.any_eq_true.mp blank)]
    have named : ∀ entry ∈ keys.entries, Text.isAllBlank entry.1 = false := by
      simpa using blank
    refine .inr (.inr ⟨nothing, named, ?_⟩)
    exact bind_pure_comp _ _

theorem keys_eq_ok_iff {keys : Keys} {statement : Statement} :
    composer.keys table keys = .ok statement ↔
      keys.entries ≠ [] ∧
        (∀ entry ∈ keys.entries, Text.isAllBlank entry.1 = false) ∧
        ∃ clauses,
          List.Forall₂ (fun entry clause =>
              composer.keyClause table entry.1 entry.2 = .ok clause)
              keys.entries clauses ∧
            statement = .join " AND " clauses := by
  rcases keys_cases composer table keys with
    ⟨nothing, refused⟩ | ⟨_, ⟨entry, member, blank⟩, refused⟩ |
      ⟨present, named, composed⟩
  · simp [refused, nothing]
  · rw [refused]
    refine iff_of_false (by simp) ?_
    rintro ⟨_, named, _⟩
    rw [named entry member] at blank
    cases blank
  · simp only [composed, Outcome.map_eq_ok_iff, Outcome.mapM_eq_ok_iff,
      and_iff_right present, and_iff_right named, eq_comm (a := statement)]

/-- The predicate of keys joins a clause for each of them, of
which there is one. -/
theorem clauses_of_keys {keys : Keys} {statement : Statement}
    (composed : composer.keys table keys = .ok statement) :
    ∃ clauses, clauses ≠ [] ∧ statement = .join " AND " clauses ∧
      List.Forall₂ (fun entry clause =>
        composer.keyClause table entry.1 entry.2 = .ok clause) keys.entries
        clauses := by
  obtain ⟨present, _, clauses, clausesOk, joined⟩ := keys_eq_ok_iff.mp composed
  refine ⟨clauses, ?_, joined, clausesOk⟩
  rintro rfl
  exact present (List.forall₂_nil_right_iff.mp clausesOk)

theorem form_keys {keys : Keys} {statement : Statement}
    (composed : composer.keys table keys = .ok statement) :
    statement.form = keys.form composer.dialect := by
  obtain ⟨clauses, _, rfl, clausesOk⟩ := clauses_of_keys composed
  rw [Statement.form_join, form_keyClauses clausesOk, Keys.form]

end Composer

end RecordSql
