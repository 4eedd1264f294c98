import RecordSql.Dialect
import RecordSql.Proofs.Statement.Composition

/-!
# Forms of statements

The form of a statement is what is left of it when the values of its parameters
are taken away.  It decides the text that is executed and how many parameters go
with it, and every operation on statements acts on the forms alone.
-/

namespace RecordSql

/-- A part without the value of its parameter. -/
def StatementPart.form : StatementPart → StatementPart
  | .text sql => .text sql
  | .param _ => .param .null

theorem StatementPart.form_eq_text_iff {part : StatementPart} {sql : String} :
    part.form = .text sql ↔ part = .text sql := by
  cases part <;> simp [form]

namespace Statement

theorem Normal.form {parts : List StatementPart} (normal : Normal parts) :
    Normal (parts.map StatementPart.form) := by
  constructor
  · intro member
    obtain ⟨part, inParts, nothing⟩ := List.mem_map.mp member
    rw [StatementPart.form_eq_text_iff] at nothing
    exact normal.present (nothing ▸ inParts)
  · intro left right within
    obtain ⟨front, inParts, same⟩ := List.infix_map_iff.mp within
    obtain ⟨first, rest, rfl, isLeft, others⟩ :=
      List.map_eq_cons_iff.mp same.symm
    obtain ⟨second, rfl, isRight⟩ := List.map_eq_singleton_iff.mp others
    rw [StatementPart.form_eq_text_iff] at isLeft isRight
    exact normal.apart left right (isLeft ▸ isRight ▸ inParts)

/-- A statement without the values of its parameters. -/
def form (statement : Statement) : Statement :=
  ⟨statement.parts.map StatementPart.form, statement.normal.form⟩

@[simp] theorem parts_form (statement : Statement) :
    statement.form.parts = statement.parts.map StatementPart.form := rfl

@[simp] theorem form_empty : empty.form = empty := rfl

@[simp] theorem form_param (statement : Statement) (value : Param) :
    (statement.param value).form = statement.form.param .null := by
  ext1
  simp [StatementPart.form]

theorem form_addText (text : String) (parts : List StatementPart) :
    (addText text parts).map StatementPart.form =
      addText text (parts.map StatementPart.form) := by
  rcases List.eq_nil_or_concat parts with rfl | ⟨before, last, rfl⟩
  · by_cases nothing : text = "" <;>
      simp [addText, nothing, StatementPart.form]
  · rw [List.concat_eq_append, addText_concat, List.map_append,
      List.map_append, List.map_singleton, addText_concat]
    cases last with
    | text last => rfl
    | param value =>
        by_cases nothing : text = "" <;>
          simp [addText, nothing, StatementPart.form]

@[simp] theorem form_sql (statement : Statement) (text : String) :
    (statement.sql text).form = statement.form.sql text :=
  Statement.ext (form_addText text statement.parts)

theorem form_part (statement : Statement) (last : StatementPart) :
    (statement.part last).form = statement.form.part last.form := by
  cases last with
  | text text => exact form_sql statement text
  | param value => exact form_param statement value

@[simp] theorem form_ofSql (text : String) : (ofSql text).form = ofSql text :=
  form_sql empty text

@[simp] theorem form_append (statement other : Statement) :
    (statement ++ other).form = statement.form ++ other.form := by
  induction other using induction_part with
  | empty => rfl
  | part before last induction =>
      rw [append_part, form_part, form_part, append_part, induction]

theorem form_eachAfter (separator : String) (items : List Statement) :
    (eachAfter separator items).form =
      eachAfter separator (items.map form) := by
  induction items with
  | nil => rfl
  | cons first rest induction => simp [eachAfter, induction]

theorem form_join (separator : String) (items : List Statement) :
    (join separator items).form = join separator (items.map form) := by
  cases items with
  | nil => rfl
  | cons first rest => simp [join_cons, form_eachAfter]

@[simp] theorem isEmpty_form (statement : Statement) :
    statement.form.isEmpty = statement.isEmpty := by
  simp [form, isEmpty]

theorem form_whereClause (predicate : Statement) :
    predicate.whereClause.form = predicate.form.whereClause := by
  cases nothing : predicate.isEmpty with
  | true => simp [whereClause, nothing]
  | false => simp [whereClause, nothing]

@[simp] theorem length_params_form (statement : Statement) :
    statement.form.params.length = statement.params.length := by
  induction statement using induction_part with
  | empty => rfl
  | part before last induction =>
      rw [form_part, params_part, params_part, List.length_append,
        List.length_append, induction]
      cases last <;> rfl

theorem executable_eq_renderFrom (statement : Statement) (dialect : Dialect) :
    statement.executable dialect =
      statement.renderFrom (fun position _ => dialect.placeholder position) 0 :=
  rfl

@[simp] theorem executable_form (statement : Statement) (dialect : Dialect) :
    statement.form.executable dialect = statement.executable dialect := by
  have rendered : ∀ parts before,
      renderParts (fun position _ => dialect.placeholder position) before
          (parts.map StatementPart.form) =
        renderParts (fun position _ => dialect.placeholder position)
          before parts := by
    intro parts
    induction parts with
    | nil => intro before; rfl
    | cons first parts induction =>
        intro before
        cases first <;> simp [renderParts, StatementPart.form, induction]
  exact rendered statement.parts 0

end Statement

end RecordSql
