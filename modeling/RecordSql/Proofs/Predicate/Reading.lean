import Mathlib.Data.List.SplitBy
import RecordSql.Proofs.Predicate.Groups
import RecordSql.Proofs.Predicate.Operator

/-!
# Composed predicates say what their filters say

Read back by the reference reader of its dialect, the predicate of a filter
is what the filter says: its groups are alternatives, and so are the
longest runs of conditions that AND joins in a group.  No name changes
where a condition ends.
-/

namespace RecordSql

def Condition.clause (condition : Condition) : Clause :=
  .leaf (Text.pieces '.' condition.field) condition.operator.written
    condition.operandCount

/-- The longest runs of conditions that AND joins; the first logic has
no part in them. -/
def Condition.runs (conditions : List Condition) : List (List Clause) :=
  (conditions.splitBy fun _ next => next.logic == .and).map
    (List.map Condition.clause)

def ConditionGroup.clause (group : ConditionGroup) : Clause :=
  .choice (Condition.runs group.conditions)

/-- The groups that have conditions are alternatives. -/
def Filter.clause (filter : Filter) : Clause :=
  .choice
      ((filter.groups.filter fun group =>
        !group.conditions.isEmpty).map fun group =>
    [group.clause])

namespace Lexeme

variable {lexemes others : List Lexeme} {clause : Clause}
  {runs : List (List Clause)}

/-- Lexemes are an operand of AND and OR, which is read when enough may
be read inside. -/
def ReadsOperand (lexemes : List Lexeme) (clause : Clause) : Prop :=
  ∀ count rest, lexemes.length ≤ count + 1 →
    readOperand (readChoice count) (lexemes ++ rest) = some (clause, rest)

/-- Lexemes are alternatives, unless AND or OR follows them. -/
def ReadsChoice (lexemes : List Lexeme) (runs : List (List Clause)) : Prop :=
  ∀ count rest, lexemes.length ≤ count → rest.head? ≠ some .and →
    rest.head? ≠ some .or →
    readChoice count (lexemes ++ rest) = some (runs, rest)

namespace ReadsOperand

private theorem length_pos (reads : ReadsOperand lexemes clause) :
    0 < lexemes.length := by
  cases lexemes with
  | nil =>
      have nothing := reads 0 [] (Nat.zero_le _)
      cases nothing
  | cons first rest => exact Nat.succ_pos _

theorem alone (reads : ReadsOperand lexemes clause) :
    ReadsChoice lexemes [[clause]] := by
  intro count rest enough noAnd noOr
  cases count with
  | zero => exact absurd reads.length_pos (Nat.not_lt.mpr enough)
  | succ count =>
      rw [readChoice, reads count rest enough]
      cases rest with
      | nil => rfl
      | cons next after =>
          cases next
          case and => exact absurd rfl noAnd
          case or => exact absurd rfl noOr
          all_goals rfl

/-- An operand is read before what joins it to others, which are fewer. -/
private theorem first (reads : ReadsOperand lexemes clause) (joiner : Lexeme)
    {count : Nat} (enough : (lexemes ++ joiner :: others).length ≤ count + 1)
    (rest : List Lexeme) :
    readOperand (readChoice count) (lexemes ++ joiner :: others ++ rest) =
        some (clause, joiner :: (others ++ rest)) ∧ others.length ≤ count := by
  rw [List.length_append, List.length_cons] at enough
  have positive := reads.length_pos
  rw [List.append_assoc, List.cons_append]
  constructor
  · apply reads
    omega
  · omega

theorem conjoined (reads : ReadsOperand lexemes clause)
    (further : ReadsChoice others runs) :
    ReadsChoice (lexemes ++ .and :: others) (conjoin clause runs) := by
  intro count rest enough noAnd noOr
  cases count with
  | zero => simp at enough
  | succ count =>
      obtain ⟨first, fewer⟩ := reads.first .and enough rest
      have continued := further count rest fewer noAnd noOr
      rw [readChoice, first]
      simp [continued]

theorem orElse (reads : ReadsOperand lexemes clause)
    (further : ReadsChoice others runs) :
    ReadsChoice (lexemes ++ .or :: others) ([clause] :: runs) := by
  intro count rest enough noAnd noOr
  cases count with
  | zero => simp at enough
  | succ count =>
      obtain ⟨first, fewer⟩ := reads.first .or enough rest
      have continued := further count rest fewer noAnd noOr
      rw [readChoice, first]
      simp [continued]

end ReadsOperand

theorem ReadsChoice.enclosed (reads : ReadsChoice lexemes runs) :
    ReadsOperand (.opening :: (lexemes ++ [.closing])) (.choice runs) := by
  intro count rest enough
  simp only [List.length_cons, List.length_append, List.length_nil] at enough
  have inside := reads count (.closing :: rest) (by omega) (by simp) (by simp)
  simp [readOperand, inside]

/-- A name with an operator after it is a comparison. -/
theorem ReadsOperator.compares {operator : Operator} {operands : Nat}
    {first : Lexeme} {segments : List (List Char)}
    (reads : ReadsOperator lexemes operator operands)
    (named : first.segments? = some segments) :
    ReadsOperand (first :: lexemes)
      (.leaf (segments.map String.ofList) operator operands) := by
  intro count rest _
  have leaf : readOperand (readChoice count) (first :: (lexemes ++ rest)) =
      readLeaf (first :: (lexemes ++ rest)) := by
    cases first
    case opening => cases named
    all_goals rfl
  rw [List.cons_append, leaf, readLeaf, named]
  simp [reads rest]

end Lexeme

section Runs

variable {α : Type} (related : α → α → Bool) {first second : α} {rest : List α}

private theorem splitBy_cons_cons_of_related
    (together : related first second = true) {run : List α}
    {runs : List (List α)}
    (split : (second :: rest).splitBy related = run :: runs) :
    (first :: second :: rest).splitBy related = (first :: run) :: runs := by
  obtain ⟨whole, present, chains, breaks⟩ := List.splitBy_eq_iff.mp split
  cases run with
  | nil => simp at present
  | cons head run =>
      obtain ⟨rfl, tail⟩ := List.cons.inj whole
      refine List.splitBy_eq_iff.mpr ⟨?_, ?_, ?_, ?_⟩
      · simp [tail]
      · simpa using present
      · rw [List.forall_mem_cons] at chains ⊢
        exact ⟨List.IsChain.cons_cons together chains.1, chains.2⟩
      · cases runs with
        | nil => exact .singleton _
        | cons next runs =>
            rw [List.isChain_cons_cons] at breaks ⊢
            obtain ⟨⟨here, there, apart⟩, further⟩ := breaks
            exact ⟨⟨by simp, there, by simpa using apart⟩, further⟩

private theorem splitBy_cons_cons_of_unrelated
    (apart : related first second = false) :
    (first :: second :: rest).splitBy related =
      [first] :: (second :: rest).splitBy related := by
  have single : [first].splitBy related = [[first]] := rfl
  rw [← List.singleton_append, List.splitBy_append, single,
    List.singleton_append]
  simpa using apart

end Runs

/-- The first condition goes with the next, or is a run alone. -/
private theorem Condition.runs_cons_cons (first next : Condition)
    (rest : List Condition) : Condition.runs (first :: next :: rest) =
      match next.logic with
      | .and => Lexeme.conjoin first.clause (Condition.runs (next :: rest))
      | .or => [first.clause] :: Condition.runs (next :: rest) := by
  let joins : Condition → Condition → Bool := fun _ next => next.logic == .and
  cases logic : next.logic with
  | and =>
      cases split : (next :: rest).splitBy joins with
      | nil => exact absurd split (List.splitBy_ne_nil.mpr (by simp))
      | cons run runs =>
          have joined : joins first next = true := by simp [joins, logic]
          have together : (first :: next :: rest).splitBy joins =
              (first :: run) :: runs :=
            splitBy_cons_cons_of_related joins joined split
          simp only [Condition.runs]
          rw [together, split]
          rfl
  | or =>
      have apart : joins first next = false := by simp [joins, logic]
      have alone : (first :: next :: rest).splitBy joins =
          [first] :: (next :: rest).splitBy joins :=
        splitBy_cons_cons_of_unrelated joins apart
      simp only [Condition.runs]
      rw [alone]
      rfl

/-- A list has an element; that is so in every condition that can be
composed. -/
def Condition.Counted (condition : Condition) : Prop :=
  condition.operator = .inList ∨ condition.operator = .notInList →
    0 < condition.operandCount

namespace Statement

variable {dialect : Dialect} {statement other : Statement} {clause : Clause}
  {runs : List (List Clause)}

/-- The text of a statement is an operand of AND and OR. -/
def ReadsOperand (dialect : Dialect) (statement : Statement)
    (clause : Clause) : Prop :=
  ∃ lexemes, LexesBefore dialect dialect.EndsName statement lexemes ∧
    Lexeme.ReadsOperand lexemes clause

/-- The text of a statement is some alternatives. -/
def ReadsChoice (dialect : Dialect) (statement : Statement)
    (runs : List (List Clause)) : Prop :=
  ∃ lexemes, LexesBefore dialect dialect.EndsName statement lexemes ∧
    Lexeme.ReadsChoice lexemes runs

private theorem lexesBefore_name (dialect : Dialect) (name : String) :
    ∃ lexeme : Lexeme,
      lexeme.segments? = some (Text.splitOn (· == '.') name.toList) ∧
        LexesBefore dialect dialect.EndsName
          (ofSql (dialect.quoteName name)) [lexeme] := by
  obtain ⟨lexeme, segments, lexed⟩ := Dialect.Lexes.name dialect name.toList
  refine ⟨lexeme, segments, .ofSql fun rest more ends restLexed => ?_⟩
  rw [Dialect.quoteName, String.toList_ofList]
  exact lexed rest more ends restLexed

/-- Operators stand apart from the name before them. -/
private theorem meets_operator (operator : Operator) (count : Nat)
    (further : List Char → Prop) :
    Meets dialect dialect.EndsName (operator.form count) further := by
  intro before rest _
  obtain ⟨tail, starts⟩ : ∃ tail,
      ((operator.form count).renderFrom
        (fun position _ => dialect.placeholder position) before).toList =
        ' ' :: tail := by
    cases operator <;> simp [Operator.form, Operator.token]
  rw [starts]
  exact Dialect.endsName_cons (by decide)

theorem readsOperand_condition (dialect : Dialect) {condition : Condition}
    (counted : condition.Counted) :
    ReadsOperand dialect (condition.form dialect) condition.clause := by
  obtain ⟨name, segments, nameLexed⟩ := lexesBefore_name dialect condition.field
  have fixed : condition.operator ≠ .inList → condition.operator ≠ .notInList →
      condition.operandCount = condition.operator.operandCount := by
    intro notIn notNotIn
    unfold Condition.operandCount
    split
    · contradiction
    · contradiction
    · rfl
  obtain ⟨lexemes, lexed, reads⟩ :=
    readsOperator_form dialect condition.operator counted fixed
  refine ⟨_, nameLexed.append (meets_operator _ _ _) lexed, ?_⟩
  exact reads.compares segments

private theorem lexesBefore_logic (logic : Logic) :
    LexesBefore dialect (fun _ => True) (ofSql (" " ++ logic.keyword ++ " "))
      [match logic with | .and => .and | .or => .or] := by
  cases logic with
  | and => exact lexesBefore_and
  | or => exact lexesBefore_or

theorem readsChoice_conditions (dialect : Dialect) {first : Condition}
    {rest : List Condition} (firstCounted : first.Counted)
    (restCounted : ∀ condition ∈ rest, condition.Counted) :
    ReadsChoice dialect (first.form dialect ++
      Condition.furtherForm dialect rest) (Condition.runs (first :: rest)) := by
  induction rest generalizing first with
  | nil =>
      obtain ⟨lexemes, lexed, reads⟩ :=
        readsOperand_condition dialect firstCounted
      rw [Condition.furtherForm, append_empty]
      exact ⟨lexemes, lexed, reads.alone⟩
  | cons next rest induction =>
      obtain ⟨lexemes, lexed, reads⟩ :=
        readsOperand_condition dialect firstCounted
      have counted := List.forall_mem_cons.mp restCounted
      obtain ⟨further, furtherLexed, readsFurther⟩ :=
        induction counted.1 counted.2
      have starts : (" " ++ next.logic.keyword ++ " ").toList =
          ' ' :: (next.logic.keyword ++ " ").toList := by simp
      have joined := lexed.append (meets_ofSql_append starts (by decide) _)
        ((lexesBefore_logic next.logic).append
          (fun _ _ _ => trivial) furtherLexed)
      rw [Condition.furtherForm, append_assoc (ofSql _)]
      refine ⟨_, joined, ?_⟩
      rw [Condition.runs_cons_cons]
      cases next.logic with
      | and => exact reads.conjoined readsFurther
      | or => exact reads.orElse readsFurther

theorem readsOperand_group (dialect : Dialect) (name : String)
    {first : Condition} {rest : List Condition}
    (counted : ∀ condition ∈ first :: rest, condition.Counted) :
    ReadsOperand dialect ((ofSql "(" ++ first.form dialect ++
      Condition.furtherForm dialect rest).sql ")")
      (ConditionGroup.clause ⟨name, first :: rest⟩) := by
  have both := List.forall_mem_cons.mp counted
  obtain ⟨lexemes, lexed, reads⟩ := readsChoice_conditions dialect both.1 both.2
  have opening : LexesBefore dialect (fun _ => True) (ofSql "(") [.opening] :=
    .ofSql fun _ _ _ lexed => .sign (by decide) rfl (Nat.le_refl _) lexed
  have inside :=
    lexed.append (meets_ofSql rfl (by decide) _) lexesBefore_closing
  have whole := opening.append (fun _ _ _ => trivial) inside
  rw [← append_ofSql, append_assoc (ofSql "("), append_assoc]
  exact ⟨_, whole, reads.enclosed⟩

private theorem readsOperand_groups (dialect : Dialect)
    {groups : List ConditionGroup}
    (counted :
      ∀ group ∈ groups, ∀ condition ∈ group.conditions, condition.Counted) :
    List.Forall₂ (ReadsOperand dialect)
      ((ConditionGroup.forms dialect groups).map
        Composer.ComposedGroup.statement)
      ((groups.filter fun group => !group.conditions.isEmpty).map
        ConditionGroup.clause) := by
  induction groups with
  | nil => exact .nil
  | cons group groups induction =>
      have both := List.forall_mem_cons.mp counted
      obtain ⟨name, conditions⟩ := group
      cases conditions with
      | nil => exact induction both.2
      | cons first rest =>
          exact .cons (readsOperand_group dialect name both.1)
            (induction both.2)

private theorem readsChoice_eachAfter {first : Statement}
    {rest : List Statement} {clauses : List Clause}
    (readsFirst : ReadsOperand dialect first clause)
    (readsRest : List.Forall₂ (ReadsOperand dialect) rest clauses) :
    ReadsChoice dialect (first ++ eachAfter " OR " rest)
      ([clause] :: clauses.map fun clause => [clause]) := by
  induction readsRest generalizing first clause with
  | nil =>
      obtain ⟨lexemes, lexed, reads⟩ := readsFirst
      rw [eachAfter, append_empty]
      exact ⟨lexemes, lexed, reads.alone⟩
  | cons readsNext _ induction =>
      obtain ⟨lexemes, lexed, reads⟩ := readsFirst
      obtain ⟨further, furtherLexed, readsFurther⟩ := induction readsNext
      have joined := lexed.append (meets_ofSql_append rfl (by decide) _)
        (lexesBefore_or.append (fun _ _ _ => trivial) furtherLexed)
      rw [eachAfter, append_assoc (ofSql _)]
      exact ⟨_, joined, reads.orElse readsFurther⟩

theorem readsChoice_join {statements : List Statement} {clauses : List Clause}
    (reads : List.Forall₂ (ReadsOperand dialect) statements clauses)
    (present : clauses ≠ []) :
    ReadsChoice dialect (join " OR " statements)
      (clauses.map fun clause => [clause]) := by
  cases reads with
  | nil => exact absurd rfl present
  | cons readsFirst readsRest =>
      obtain ⟨lexemes, lexed, reads⟩ :=
        readsChoice_eachAfter readsFirst readsRest
      rw [join_cons]
      exact ⟨lexemes, lexed, reads⟩

/-- A statement that is some alternatives is read as these, with nothing
left. -/
theorem readPredicate?_executable (reads : ReadsChoice dialect statement runs) :
    dialect.readPredicate? (statement.executable dialect) =
      some (.choice runs) := by
  obtain ⟨lexemes, lexed, reads⟩ := reads
  have whole := lexed 0 [] [] Dialect.endsName_nil .nil
  rw [List.append_nil, List.append_nil, ← executable_eq_renderFrom] at whole
  have read := reads lexemes.length [] (Nat.le_refl _) (by simp) (by simp)
  rw [List.append_nil] at read
  rw [Dialect.readPredicate?, Dialect.lexemes?_eq_some whole]
  simp [read]

end Statement

namespace Composer

variable {composer : Composer} {table : Option Table}

private theorem counted_of_condition {condition : Condition}
    {statement : Statement}
    (composed : composer.condition table condition = .ok statement) :
    condition.Counted := by
  obtain ⟨comparison, compared, _⟩ := Outcome.bind_eq_ok_iff.mp composed
  obtain ⟨field, operator, operand, upper, logic⟩ := condition
  intro listed
  cases operator
  case inList | notInList =>
    obtain ⟨params, bound, _⟩ := Outcome.bind_eq_ok_iff.mp compared
    obtain ⟨sameLength, present⟩ := length_of_listParams bound
    rwa [sameLength] at present
  all_goals simp at listed

private theorem counted_of_groups {groups : List ConditionGroup}
    {composed : List ComposedGroup}
    (succeeded : composer.groups table groups = .ok composed) :
    ∀ group ∈ groups, ∀ condition ∈ group.conditions, condition.Counted := by
  intro group member condition inGroup
  obtain ⟨clauses, clausesOk, _⟩ := clauses_of_groups succeeded
  obtain ⟨clause, clauseOk⟩ :=
    exists_composes_iff.mp ⟨clauses, clausesOk⟩ condition
      (List.mem_flatMap_of_mem member inGroup)
  exact counted_of_condition clauseOk

/-- A composed predicate is read, as a whole, as what its filter says. -/
theorem readPredicate?_of_filter {filter : Filter} {statement : Statement}
    (composed : composer.filter table filter = .ok statement)
    (untemplated : (filter.groupMap.map Text.trim).getD "" = "")
    (present : filter.hasConditions = true) :
    composer.dialect.readPredicate? (statement.executable composer.dialect) =
      some filter.clause := by
  obtain ⟨groups, grouped, _⟩ := Outcome.bind_eq_ok_iff.mp composed
  have formed := form_filter composed
  simp only [Filter.form, untemplated, ne_eq, not_true, if_false] at formed
  have sameForm := Except.ok.inj formed
  have reads :=
    Statement.readsOperand_groups composer.dialect (counted_of_groups grouped)
  have nonempty :
      (filter.groups.filter fun group => !group.conditions.isEmpty).map
        ConditionGroup.clause ≠ [] := by
    simpa [Filter.hasConditions] using present
  have joined := Statement.readsChoice_join reads nonempty
  rw [sameForm, List.map_map] at joined
  rw [← Statement.executable_form]
  exact Statement.readPredicate?_executable joined

/-- Keywords and a quote as names, and an operator that is spelled
like its column. -/
theorem readPredicate?_of_filter_keywords :
    let filter :=
      ((Filter.empty.add (.between "a\"b.and" (.integer 1) (.integer 2))).add
        ((Condition.of "or" .inList (.string "x, y")).withLogic .or)).addTo
        "other" (.of "regexp" .regexp (.string "a|b"))
    let composed : Statement :=
      .ofPieces [.text "(\"a\"\"b\".\"and\" BETWEEN ", .param (.integer 1),
        .text " AND ", .param (.integer 2), .text " OR \"or\" IN (",
        .param (.text "x"), .text ", ", .param (.text "y"),
        .text ")) OR (regexp REGEXP ", .param (.text "a|b"), .text ")"]
    Composer.filter ⟨.sqlite, .ofTexts "%Y" "%Y"⟩ none filter = .ok composed ∧
      (filter.groupMap.map Text.trim).getD "" = "" ∧
      filter.hasConditions = true ∧
      Dialect.sqlite.readPredicate? (composed.executable .sqlite) =
        some (.choice
          [[.choice [[.leaf ["a\"b", "and"] .between 2],
            [.leaf ["or"] .inList 2]]],
            [.choice [[.leaf ["regexp"] .regexp 1]]]]) := by
  intro filter composed
  have composedOk : Composer.filter ⟨.sqlite, .ofTexts "%Y" "%Y"⟩ none filter =
      .ok composed := by
    decide +kernel
  have said : filter.clause =
      .choice
        [[.choice [[.leaf ["a\"b", "and"] .between 2],
          [.leaf ["or"] .inList 2]]],
          [.choice [[.leaf ["regexp"] .regexp 1]]]] := by rfl
  refine ⟨composedOk, rfl, rfl, ?_⟩
  rw [← said]
  exact readPredicate?_of_filter composedOk rfl rfl

end Composer

end RecordSql
