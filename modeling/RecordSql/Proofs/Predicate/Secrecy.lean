import RecordSql.Mutation
import RecordSql.Proofs.Predicate.Form
import RecordSql.Query

/-!
# Operands stay out of the text

Two runs over criteria that differ in the values of their operands alone send
the same text with the same number of parameters, also when the runs use
different temporal formats and know different columns.  A list operand may
change its elements but not their number, and a key may change its value but not
whether it is null.
-/

namespace RecordSql

/-- Conditions that differ in the values of their operands alone. -/
structure Condition.Alike (first second : Condition) : Prop where
  field : first.field = second.field
  operator : first.operator = second.operator
  logic : first.logic = second.logic
  /-- Lists have as many elements. -/
  elements : first.operator = .inList ∨ first.operator = .notInList →
    first.operand.elementCount = second.operand.elementCount

/-- Groups of one name whose conditions differ in the values of their
operands alone. -/
structure ConditionGroup.Alike (first second : ConditionGroup) : Prop where
  name : first.name = second.name
  conditions : List.Forall₂ Condition.Alike first.conditions second.conditions

/-- Filters that differ in the values of their operands alone. -/
structure Filter.Alike (first second : Filter) : Prop where
  groups : List.Forall₂ ConditionGroup.Alike first.groups second.groups
  groupMap : first.groupMap = second.groupMap
  sort : first.sort = second.sort
  groupBy : first.groupBy = second.groupBy
  limit : first.limit = second.limit
  offset : first.offset = second.offset

/-- Keys of the same names, null for the same names. -/
def Keys.Alike (first second : Keys) : Prop :=
  List.Forall₂ (fun left right =>
    left.1 = right.1 ∧ left.2.isNull = right.2.isNull) first.entries
    second.entries

/-- Criteria that differ in the values of their operands alone. -/
inductive Criteria.Alike : Criteria → Criteria → Prop where
  | all : Alike .all .all
  | keys {first second : Keys} :
      first.Alike second → Alike (.keys first) (.keys second)
  | filter {first second : Filter} :
      first.Alike second → Alike (.filter first) (.filter second)

/-- The predicate of criteria without the values of its operands. -/
def Criteria.form (dialect : Dialect) : Criteria → Except Fault Statement
  | .all => .ok .empty
  | .keys given => .ok (given.form dialect)
  | .filter given => given.form dialect

variable {dialect : Dialect}

theorem Condition.Alike.operandCount_eq {first second : Condition}
    (alike : first.Alike second) :
    first.operandCount = second.operandCount := by
  have sameElements := alike.elements
  unfold operandCount
  rw [← alike.operator]
  cases operator : first.operator <;> simp_all

theorem Condition.Alike.form_eq {first second : Condition}
    (alike : first.Alike second) :
    first.form dialect = second.form dialect := by
  rw [form, form, alike.field, alike.operator, alike.operandCount_eq]

private theorem furtherForm_eq {first second : List Condition}
    (alike : List.Forall₂ Condition.Alike first second) :
    Condition.furtherForm dialect first =
      Condition.furtherForm dialect second := by
  induction alike with
  | nil => rfl
  | cons head _ induction =>
      rw [Condition.furtherForm, Condition.furtherForm, head.logic,
        head.form_eq, induction]

private theorem forms_eq {first second : List ConditionGroup}
    (alike : List.Forall₂ ConditionGroup.Alike first second) :
    ConditionGroup.forms dialect first =
      ConditionGroup.forms dialect second := by
  induction alike with
  | nil => rfl
  | @cons left right _ _ head _ induction =>
      obtain ⟨name, conditions⟩ := left
      obtain ⟨_, others⟩ := right
      obtain ⟨rfl, conditionsAlike⟩ := head
      cases conditionsAlike with
      | nil => exact induction
      | cons firstAlike restAlike =>
          simp only [ConditionGroup.forms, firstAlike.form_eq,
            furtherForm_eq restAlike, induction]

private theorem names_eq {first second : List ConditionGroup}
    (alike : List.Forall₂ ConditionGroup.Alike first second) :
    first.map ConditionGroup.name = second.map ConditionGroup.name := by
  induction alike with
  | nil => rfl
  | cons head _ induction =>
      rw [List.map_cons, List.map_cons, head.name, induction]

theorem Filter.Alike.form_eq {first second : Filter}
    (alike : first.Alike second) :
    first.form dialect = second.form dialect := by
  rw [form, form, forms_eq alike.groups, names_eq alike.groups, alike.groupMap]

private theorem entryForms_eq {first second : List (String × Value)}
    (alike :
      List.Forall₂ (fun left right =>
        left.1 = right.1 ∧ left.2.isNull = right.2.isNull) first second) :
    first.map (fun entry => Keys.entryForm dialect entry.1 entry.2.isNull) =
      second.map fun entry =>
        Keys.entryForm dialect entry.1 entry.2.isNull := by
  induction alike with
  | nil => rfl
  | cons head _ induction =>
      rw [List.map_cons, List.map_cons, head.1, head.2, induction]

theorem Keys.Alike.form_eq {first second : Keys} (alike : first.Alike second) :
    first.form dialect = second.form dialect := by
  rw [form, form, entryForms_eq alike]

namespace Criteria.Alike

variable {first second : Criteria}

theorem form_eq (alike : first.Alike second) :
    first.form dialect = second.form dialect := by
  cases alike with
  | all => rfl
  | keys alike => rw [Criteria.form, Criteria.form, alike.form_eq]
  | filter alike => exact alike.form_eq

theorem page?_eq (alike : first.Alike second) : first.page? = second.page? := by
  cases alike with
  | all | keys => rfl
  | filter alike =>
      simp [Criteria.page?, Filter.page?, alike.limit, alike.offset]

theorem orderingOf_eq (alike : first.Alike second) :
    Composer.orderingOf first = Composer.orderingOf second := by
  cases alike with
  | all | keys => rfl
  | filter alike =>
      simp [Composer.orderingOf, Composer.ordering, alike.groupBy, alike.sort]

theorem isOrdered_eq (alike : first.Alike second) :
    Composer.isOrdered first = Composer.isOrdered second := by
  cases alike with
  | all | keys => rfl
  | filter alike => simp [Composer.isOrdered, alike.sort]

end Criteria.Alike

namespace Composer

/-- Outcomes of composing that, where both succeed, send the same text with the
same number of parameters. -/
def SameText (dialect : Dialect)
    (first second : Except Fault Statement) : Prop :=
  ∀ ⦃left right : Statement⦄, first = .ok left → second = .ok right →
    left.executable dialect = right.executable dialect ∧
      left.params.length = right.params.length

private theorem sameText_of_form {dialect : Dialect}
    {first second : Except Fault Statement}
    (sameForm : ∀ left right : Statement, first = .ok left →
      second = .ok right →
      left.form = right.form) : SameText dialect first second := by
  intro left right firstOk secondOk
  have same := sameForm left right firstOk secondOk
  constructor
  · rw [← Statement.executable_form left, same, Statement.executable_form]
  · rw [← Statement.length_params_form left, same, Statement.length_params_form]

theorem form_predicate {composer : Composer} {table : Option Table}
    {criteria : Criteria} {statement : Statement}
    (composed : composer.predicate table criteria = .ok statement) :
    criteria.form composer.dialect = .ok statement.form := by
  cases criteria with
  | all =>
      cases composed
      rfl
  | keys given => rw [Criteria.form, form_keys composed]
  | filter given => exact form_filter composed

section Restricted

variable {dialect : Dialect} {firstFormats secondFormats : Formats}
  {firstTable secondTable : Option Table} {first second : Criteria}

private theorem predicate_form_eq (alike : first.Alike second)
    {left right : Statement}
    (leftOk : predicate ⟨dialect, firstFormats⟩ firstTable first = .ok left)
    (rightOk :
      predicate ⟨dialect, secondFormats⟩ secondTable second = .ok right) :
    left.form = right.form := by
  have leftForm := form_predicate leftOk
  rw [alike.form_eq, form_predicate rightOk] at leftForm
  exact (Except.ok.inj leftForm).symm

/-- Statements built in the same way around such predicates have the same
text. -/
private theorem sameText_of_restricted (alike : first.Alike second)
    {buildLeft buildRight : Statement → Statement}
    (sameForm : ∀ left right : Statement, left.form = right.form →
      (buildLeft left).form = (buildRight right).form) :
    SameText dialect
      (do pure (buildLeft
            (← predicate ⟨dialect, firstFormats⟩ firstTable first)))
      (do pure (buildRight
            (← predicate ⟨dialect, secondFormats⟩ secondTable second))) := by
  refine sameText_of_form fun _ _ leftOk rightOk => ?_
  obtain ⟨left, leftPredicate, leftBuilt⟩ := Outcome.bind_eq_ok_iff.mp leftOk
  obtain ⟨right, rightPredicate, rightBuilt⟩ :=
    Outcome.bind_eq_ok_iff.mp rightOk
  cases leftBuilt
  cases rightBuilt
  exact sameForm left right
    (predicate_form_eq alike leftPredicate rightPredicate)

end Restricted

/-- Nothing of the values that criteria compare with reaches the text that is
executed: with other values in their place, other formats and other known
columns, every statement that restricts by the criteria has the same text and as
many parameters. -/
theorem sameText_of_alike (dialect : Dialect)
    (firstFormats secondFormats : Formats)
    (firstTable secondTable : Option Table) {first second : Criteria}
    (alike : first.Alike second) :
    let left : Composer := ⟨dialect, firstFormats⟩
    let right : Composer := ⟨dialect, secondFormats⟩
    SameText dialect (left.predicate firstTable first)
        (right.predicate secondTable second) ∧
      (∀ name fields page,
        SameText dialect (left.select firstTable name fields first page)
          (right.select secondTable name fields second page)) ∧
      (∀ name,
        SameText dialect (left.count firstTable name first)
          (right.count secondTable name second)) ∧
      (∀ query,
        SameText dialect (left.extendQuery firstTable query first)
          (right.extendQuery secondTable query second)) ∧
      ∀ name,
        SameText dialect
          (do pure (left.delete name (← left.predicate firstTable first)))
          (do pure (right.delete name
                (← right.predicate secondTable second))) := by
  intro left right
  refine ⟨?predicate, ?select, ?count, ?query, ?delete⟩
  case predicate =>
    exact sameText_of_form fun _ _ leftOk rightOk =>
      predicate_form_eq alike leftOk rightOk
  case select =>
    intro name fields page
    refine sameText_of_restricted alike fun predicate other sameForm => ?_
    simp only [Statement.form_sql, Statement.form_append, Statement.form_ofSql,
      Statement.form_whereClause, sameForm, alike.orderingOf_eq,
      alike.isOrdered_eq, alike.page?_eq]
    rfl
  case count =>
    intro name
    refine sameText_of_restricted alike fun predicate other sameForm => ?_
    simp only [Statement.form_append, Statement.form_ofSql,
      Statement.form_whereClause, sameForm]
    rfl
  case query =>
    intro query
    refine sameText_of_restricted alike fun predicate other sameForm => ?_
    simp only [Statement.form_sql, Statement.form_append, Statement.form_ofSql,
      Statement.form_whereClause, sameForm, alike.orderingOf_eq,
      alike.isOrdered_eq, alike.page?_eq]
    rfl
  case delete =>
    intro name
    refine sameText_of_restricted alike fun predicate other sameForm => ?_
    simp only [delete, Statement.form_append, Statement.form_ofSql,
      Statement.form_whereClause, sameForm]
    rfl

/-- Two lists of two texts, one of them with a quote and a comment in it. -/
theorem sameText_of_alike_lists :
    let criteria (operand : String) : Criteria :=
      .filter
        ((Filter.empty.add
          (.of "t.name" .inList (.string operand))).withGroupMap
          "NOT :default:")
    let composed (first second : String) : Statement :=
      .ofPieces [.text "NOT ([t].[name] IN (", .param (.text first), .text ", ",
        .param (.text second), .text "))"]
    predicate ⟨.sqlserver, .ofTexts "%Y" "%Y"⟩ none (criteria "a, b") =
        .ok (composed "a" "b") ∧
      predicate ⟨.sqlserver, .ofTexts "%d" "%d"⟩ (some ⟨"t", []⟩)
          (criteria ",' OR 1=1,--") =
        .ok (composed "' OR 1=1" "--") ∧
      (composed "a" "b").executable .sqlserver =
        (composed "' OR 1=1" "--").executable .sqlserver := by
  intro criteria composed
  have alike : (criteria "a, b").Alike (criteria ",' OR 1=1,--") :=
    .filter ⟨.cons ⟨rfl, .cons ⟨rfl, rfl, rfl, fun _ => by decide⟩ .nil⟩ .nil,
      rfl, rfl, rfl, rfl, rfl⟩
  have firstOk : predicate ⟨.sqlserver, .ofTexts "%Y" "%Y"⟩ none
      (criteria "a, b") = .ok (composed "a" "b") := by rfl
  have secondOk : predicate ⟨.sqlserver, .ofTexts "%d" "%d"⟩ (some ⟨"t", []⟩)
      (criteria ",' OR 1=1,--") = .ok (composed "' OR 1=1" "--") := by rfl
  exact ⟨firstOk, secondOk,
    ((sameText_of_alike .sqlserver _ _ _ _ alike).1 firstOk secondOk).1⟩

end Composer

end RecordSql
