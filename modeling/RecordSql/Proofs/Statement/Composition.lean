import Mathlib.Data.List.Induction
import RecordSql.Statement

/-!
# Composition of statements

Statements are put together from text and parameters in several ways.  Here all
of them are reduced to one, the append, which is associative, and it is said
what text and which parameters a composed statement has.  A text is rendered
from a position on, because the placeholders of a clause are counted on from
those of the clauses before it.
-/

namespace RecordSql

namespace Statement

/-- The statement that takes in pieces one after another. -/
def ofPieces (pieces : List StatementPart) : Statement :=
  pieces.foldl part empty

@[simp] theorem parts_empty : empty.parts = [] := rfl

@[simp] theorem parts_sql (statement : Statement) (text : String) :
    (statement.sql text).parts = addText text statement.parts := rfl

@[simp] theorem parts_param (statement : Statement) (value : Param) :
    (statement.param value).parts = statement.parts ++ [.param value] := rfl

/-- Every statement grows out of the empty one, part by part. -/
@[elab_as_elim]
theorem induction_part {motive : Statement → Prop} (empty : motive empty)
    (part : ∀ before last, motive before → motive (before.part last))
    (statement : Statement) : motive statement := by
  obtain ⟨parts, normal⟩ := statement
  induction parts using List.reverseRecOn with
  | nil => exact empty
  | append_singleton parts last induction =>
      obtain ⟨beforeNormal, nonempty, meets⟩ := normal_concat_iff.mp normal
      have grown : (⟨parts ++ [last], normal⟩ : Statement) =
          (⟨parts, beforeNormal⟩ : Statement).part last := by
        cases last with
        | param value => rfl
        | text text =>
            have apart := meets.resolve_left Bool.false_ne_true
            have present : text ≠ "" := fun nothing =>
              nonempty (congrArg _ nothing)
            rcases addText_cases present parts with
              ⟨_, _, rfl, _⟩ | ⟨_, added⟩
            · exact absurd List.getLast?_concat (apart _)
            · exact Statement.ext added.symm
      rw [grown]
      exact part _ last (induction beforeNormal)

@[simp] theorem sql_nothing (statement : Statement) :
    statement.sql "" = statement :=
  Statement.ext (addText_empty statement.parts)

theorem sql_sql (statement : Statement) (first second : String) :
    (statement.sql first).sql second = statement.sql (first ++ second) := by
  by_cases nothing : first = ""
  · simp [nothing]
  have present : first ++ second ≠ "" := by simp [nothing]
  ext1
  rw [parts_sql, parts_sql, parts_sql]
  rcases addText_cases nothing statement.parts with
    ⟨before, last, own, added⟩ | ⟨apart, added⟩
  · rw [added, own, addText_concat, addText_concat, addText, addText,
      String.append_assoc]
  · rw [added, addText_concat, addText]
    rcases addText_cases present statement.parts with
      ⟨before, last, own, _⟩ | ⟨_, both⟩
    · exact absurd (own ▸ List.getLast?_concat) (apart last)
    · exact both.symm

theorem ofSql_sql (first second : String) :
    (ofSql first).sql second = ofSql (first ++ second) :=
  sql_sql empty first second

theorem append_eq_foldl (statement other : Statement) :
    statement ++ other = other.parts.foldl part statement := rfl

@[simp] theorem append_empty (statement : Statement) :
    statement ++ empty = statement := rfl

theorem append_param (statement other : Statement) (value : Param) :
    statement ++ other.param value = (statement ++ other).param value := by
  rw [append_eq_foldl, param, List.foldl_append]
  rfl

theorem append_sql (statement other : Statement) (text : String) :
    statement ++ other.sql text = (statement ++ other).sql text := by
  by_cases nothing : text = ""
  · simp [nothing]
  rw [append_eq_foldl, append_eq_foldl, parts_sql]
  rcases addText_cases nothing other.parts with
    ⟨before, last, own, added⟩ | ⟨_, added⟩
  · rw [added, own, List.foldl_append, List.foldl_append]
    exact (sql_sql _ last text).symm
  · rw [added, List.foldl_append]
    rfl

theorem append_part (statement other : Statement) (last : StatementPart) :
    statement ++ other.part last = (statement ++ other).part last := by
  cases last with
  | text text => exact append_sql statement other text
  | param value => exact append_param statement other value

theorem append_ofSql (statement : Statement) (text : String) :
    statement ++ ofSql text = statement.sql text :=
  append_sql statement empty text

theorem append_assoc (first second third : Statement) :
    first ++ second ++ third = first ++ (second ++ third) := by
  induction third using induction_part with
  | empty => rfl
  | part before last induction =>
      rw [append_part, append_part, append_part, induction]

@[simp] theorem empty_append (statement : Statement) :
    empty ++ statement = statement := by
  induction statement using induction_part with
  | empty => rfl
  | part before last induction => rw [append_part, induction]

@[simp] theorem params_empty : empty.params = [] := rfl

theorem paramsOf_append (parts others : List StatementPart) :
    paramsOf (parts ++ others) = paramsOf parts ++ paramsOf others :=
  List.filterMap_append

@[simp] theorem params_sql (statement : Statement) (text : String) :
    (statement.sql text).params = statement.params := by
  by_cases nothing : text = ""
  · rw [nothing, sql_nothing]
  rw [params, params, parts_sql]
  rcases addText_cases nothing statement.parts with
    ⟨before, last, own, added⟩ | ⟨_, added⟩
  · rw [added, own, paramsOf_append, paramsOf_append]
    rfl
  · rw [added, paramsOf_append]
    exact List.append_nil _

@[simp] theorem params_ofSql (text : String) : (ofSql text).params = [] :=
  params_sql empty text

@[simp] theorem params_param (statement : Statement) (value : Param) :
    (statement.param value).params = statement.params ++ [value] :=
  paramsOf_append statement.parts [.param value]

theorem params_part (statement : Statement) (last : StatementPart) :
    (statement.part last).params = statement.params ++ paramsOf [last] := by
  cases last with
  | text text =>
      exact (params_sql statement text).trans (List.append_nil _).symm
  | param value => exact params_param statement value

@[simp] theorem params_append (statement other : Statement) :
    (statement ++ other).params = statement.params ++ other.params := by
  induction other using induction_part with
  | empty => exact (List.append_nil _).symm
  | part before last induction =>
      rw [append_part, params_part, params_part, induction, List.append_assoc]

/-- The text of a statement that has so many parameters before it. -/
def renderFrom (statement : Statement) (placeholder : Nat → Param → String)
    (before : Nat) : String :=
  renderParts placeholder before statement.parts

section Rendering

variable (placeholder : Nat → Param → String)

theorem renderParts_append (before : Nat) (parts others : List StatementPart) :
    renderParts placeholder before (parts ++ others) =
      renderParts placeholder before parts ++
        renderParts placeholder (before + (paramsOf parts).length) others := by
  induction parts generalizing before with
  | nil => simp [renderParts, paramsOf]
  | cons first parts induction =>
      cases first with
      | text text =>
          simp [renderParts, paramsOf, induction, String.append_assoc]
      | param value =>
          simp [renderParts, paramsOf, induction, String.append_assoc,
            Nat.add_assoc, Nat.add_comm 1]

@[simp] theorem renderFrom_empty (before : Nat) :
    empty.renderFrom placeholder before = "" := rfl

@[simp] theorem renderFrom_sql (statement : Statement) (text : String)
    (before : Nat) :
    (statement.sql text).renderFrom placeholder before =
      statement.renderFrom placeholder before ++ text := by
  by_cases nothing : text = ""
  · rw [nothing, sql_nothing, String.append_empty]
  rw [renderFrom, renderFrom, parts_sql]
  rcases addText_cases nothing statement.parts with
    ⟨front, last, own, added⟩ | ⟨_, added⟩
  · rw [added, own]
    simp [renderParts_append, renderParts, String.append_assoc]
  · rw [added]
    simp [renderParts_append, renderParts]

@[simp] theorem renderFrom_ofSql (text : String) (before : Nat) :
    (ofSql text).renderFrom placeholder before = text := by
  simp [ofSql]

@[simp] theorem renderFrom_param (statement : Statement) (value : Param)
    (before : Nat) :
    (statement.param value).renderFrom placeholder before =
      statement.renderFrom placeholder before ++
        placeholder (before + statement.params.length + 1) value := by
  simp [param, params, renderFrom, renderParts_append, renderParts]

theorem renderFrom_part (statement : Statement) (last : StatementPart)
    (before : Nat) :
    (statement.part last).renderFrom placeholder before =
      statement.renderFrom placeholder before ++
        renderParts placeholder (before + statement.params.length) [last] := by
  cases last with
  | text text => simp [part, renderParts]
  | param value => simp [part, renderParts]

/-- What is appended counts its parameters on. -/
@[simp] theorem renderFrom_append (statement other : Statement) (before : Nat) :
    (statement ++ other).renderFrom placeholder before =
      statement.renderFrom placeholder before ++
        other.renderFrom placeholder (before + statement.params.length) := by
  induction other using induction_part with
  | empty => simp
  | part front last induction =>
      rw [append_part, renderFrom_part, renderFrom_part, induction,
        params_append, List.length_append, Nat.add_assoc, String.append_assoc]

end Rendering

/-- Statements with the separator before each of them. -/
def eachAfter (separator : String) : List Statement → Statement
  | [] => empty
  | first :: rest => ofSql separator ++ first ++ eachAfter separator rest

private theorem foldl_eachAfter (separator : String) (start : Statement)
    (items : List Statement) :
    items.foldl (fun joined item => joined.sql separator ++ item) start =
      start ++ eachAfter separator items := by
  induction items generalizing start with
  | nil => rfl
  | cons first rest induction =>
      rw [List.foldl_cons, induction, eachAfter, ← append_ofSql]
      simp only [append_assoc]

theorem join_cons (separator : String) (first : Statement)
    (rest : List Statement) :
    join separator (first :: rest) = first ++ eachAfter separator rest := by
  rw [join, foldl_eachAfter, empty_append]

/-- The texts of statements, each with its parameters counted on from
those before it. -/
def renderEach (placeholder : Nat → Param → String) :
    Nat → List Statement → List String
  | _, [] => []
  | before, first :: rest =>
    first.renderFrom placeholder before ::
      renderEach placeholder (before + first.params.length) rest

theorem renderFrom_join (placeholder : Nat → Param → String)
    (separator : String) (before : Nat) (items : List Statement) :
    (join separator items).renderFrom placeholder before =
      separator.intercalate (renderEach placeholder before items) := by
  induction items generalizing before with
  | nil => rfl
  | cons first rest induction =>
      cases rest with
      | nil => simp [join_cons, eachAfter, renderEach]
      | cons next rest =>
          have further := induction (before + first.params.length)
          rw [join_cons] at further
          rw [join_cons, renderEach, renderEach, String.intercalate_cons_cons,
            ← renderEach, ← further]
          simp [eachAfter, String.append_assoc]

end Statement

end RecordSql
