import RecordSql.Dialect
import RecordSql.Proofs.Statement.Composition

/-!
# Statements as they are logged

The rendering with literals does not count parameters, so unlike the executed
text it is the same for a clause wherever the clause stands.
-/

namespace RecordSql.Statement

variable {dialect : Dialect}

private theorem renderFrom_literal (statement : Statement) (before : Nat) :
    statement.renderFrom (fun _ value => dialect.literal value) before =
      statement.literal dialect := by
  have rendered : ∀ parts before after,
      renderParts (fun _ value => dialect.literal value) before parts =
        renderParts (fun _ value => dialect.literal value) after parts := by
    intro parts
    induction parts with
    | nil => intro before after; rfl
    | cons first parts induction =>
        intro before after
        cases first with
        | text text => rw [renderParts, renderParts, induction before after]
        | param value =>
            rw [renderParts, renderParts, induction (before + 1) (after + 1)]
  exact rendered statement.parts before 0

@[simp] theorem literal_ofSql (text : String) :
    (ofSql text).literal dialect = text :=
  renderFrom_ofSql _ text 0

@[simp] theorem literal_append (statement other : Statement) :
    (statement ++ other).literal dialect =
      statement.literal dialect ++ other.literal dialect := by
  rw [← renderFrom_literal other (0 + statement.params.length)]
  exact renderFrom_append _ statement other 0

theorem literal_eachAfter (separator : String) {items : List Statement}
    (present : items ≠ []) : (eachAfter separator items).literal dialect =
      separator ++ (join separator items).literal dialect := by
  cases items with
  | nil => exact absurd rfl present
  | cons first rest => simp [eachAfter, join_cons, String.append_assoc]

theorem params_eachAfter (separator : String) (items : List Statement) :
    (eachAfter separator items).params = items.flatMap params := by
  induction items with
  | nil => rfl
  | cons first rest induction => simp [eachAfter, induction]

theorem params_join (separator : String) (items : List Statement) :
    (join separator items).params = items.flatMap params := by
  cases items with
  | nil => rfl
  | cons first rest => simp [join_cons, params_eachAfter]

end RecordSql.Statement
