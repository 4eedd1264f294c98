import RecordSql.Proofs.Statement.Construction
import RecordSql.Proofs.Statement.Form
import RecordSql.Proofs.Statement.Literal

/-!
# Placeholders and parameters

However deep a statement is nested, its executed text has one placeholder for
each parameter, numbered from one in the order of the parameters, and its
logged text has the literals of the parameters in their places.  What is
appended counts on from the statement before it and keeps its parameters, each
with its own placeholder.
-/

namespace RecordSql.Statement

/-- Pieces written one after another, with marks in the places of
the parameters. -/
def fill : List StatementPart → List String → String
  | [], _ => ""
  | .text sql :: pieces, marks => sql ++ fill pieces marks
  | .param _ :: pieces, mark :: marks => mark ++ fill pieces marks
  | .param _ :: pieces, [] => fill pieces []

/-- So many placeholders, numbered on from those before. -/
def placeholdersAfter (dialect : Dialect) (before count : Nat) : List String :=
  (List.range' (before + 1) count).map dialect.placeholder

variable {dialect : Dialect}

theorem countP_isParam (pieces : List StatementPart) :
    pieces.countP StatementPart.isParam = (paramsOf pieces).length := by
  induction pieces with
  | nil => rfl
  | cons first rest induction =>
      cases first with
      | text text => simpa [paramsOf, StatementPart.isParam] using induction
      | param value =>
          simpa [paramsOf, List.countP_cons, StatementPart.isParam]
            using induction

theorem paramCount_eq (statement : Statement) :
    statement.paramCount = statement.params.length :=
  countP_isParam statement.parts

/-- The marks of the parameters, each by its position and its value. -/
private theorem renderParts_eq_fill (mark : Nat → Param → String) (before : Nat)
    (pieces : List StatementPart) :
    renderParts mark before pieces =
      fill pieces (((paramsOf pieces).zipIdx (before + 1)).map fun entry =>
        mark entry.2 entry.1) := by
  induction pieces generalizing before with
  | nil => rfl
  | cons first rest induction =>
      cases first with
      | text text => rw [renderParts, induction]; rfl
      | param value => rw [renderParts, induction]; rfl

private theorem renderParts_placeholder (before : Nat)
    (pieces : List StatementPart) :
    renderParts (fun position _ => dialect.placeholder position) before pieces =
      fill pieces
        (placeholdersAfter dialect before (paramsOf pieces).length) := by
  rw [renderParts_eq_fill, placeholdersAfter, ← List.zipIdx_map_snd,
    List.map_map]
  rfl

private theorem renderParts_literal (before : Nat)
    (pieces : List StatementPart) :
    renderParts (fun _ value => dialect.literal value) before pieces =
      fill pieces ((paramsOf pieces).map dialect.literal) := by
  have values := List.zipIdx_map_fst (before + 1) (paramsOf pieces)
  rw [renderParts_eq_fill, ← congrArg (List.map dialect.literal) values,
    List.map_map]
  rfl

theorem params_ofPieces (pieces : List StatementPart) :
    (ofPieces pieces).params = paramsOf pieces := by
  induction pieces using List.reverseRecOn with
  | nil => rfl
  | append_singleton pieces last induction =>
      rw [ofPieces_concat, params_part, induction, paramsOf_append]

theorem renderFrom_ofPieces (placeholder : Nat → Param → String)
    (pieces : List StatementPart) (before : Nat) :
    (ofPieces pieces).renderFrom placeholder before =
      renderParts placeholder before pieces := by
  induction pieces using List.reverseRecOn with
  | nil => rfl
  | append_singleton pieces last induction =>
      rw [ofPieces_concat, renderFrom_part, induction, params_ofPieces,
        renderParts_append]

private theorem foldl_intersperse (separator : String) (start first : Statement)
    (rest : List Statement) :
    ((first :: rest).intersperse (ofSql separator)).foldl (· ++ ·) start =
      start ++ first ++ eachAfter separator rest := by
  induction rest generalizing start first with
  | nil => rfl
  | cons next rest induction =>
      rw [List.intersperse_cons_cons, List.foldl_cons, List.foldl_cons,
        induction, eachAfter]
      simp only [append_assoc]

/-- Joining is appending, with the separator between one item and the next. -/
theorem join_eq_foldl (separator : String) (items : List Statement) :
    join separator items =
      (items.intersperse (ofSql separator)).foldl (· ++ ·) empty := by
  cases items with
  | nil => rfl
  | cons first rest => rw [join_cons, foldl_intersperse, empty_append]

/-- The text of a construction that has so many parameters before it. -/
theorem renderFrom_placeholder (construction : Construction) (before : Nat) :
    construction.statement.renderFrom
        (fun position _ => dialect.placeholder position) before =
      fill construction.pieces
        (placeholdersAfter dialect before
          construction.statement.paramCount) := by
  rw [paramCount_eq, construction.statement_eq_ofPieces, params_ofPieces,
    renderFrom_ofPieces, renderParts_placeholder]

/-- The parameters are those of the pieces, and both texts are the pieces
with marks in the places of the parameters: the placeholders from one on,
and the literals. -/
structure Aligned (dialect : Dialect) (construction : Construction) : Prop where
  params : construction.statement.params = paramsOf construction.pieces
  count : construction.statement.paramCount =
    construction.statement.params.length
  executable : construction.statement.executable dialect =
    fill construction.pieces
      (placeholdersAfter dialect 0 construction.statement.paramCount)
  literal : construction.statement.literal dialect =
    fill construction.pieces (construction.statement.params.map dialect.literal)

theorem aligned (construction : Construction) :
    Aligned dialect construction := by
  have made := construction.statement_eq_ofPieces
  have ownParams : construction.statement.params =
      paramsOf construction.pieces := by
    rw [made, params_ofPieces]
  refine ⟨ownParams, paramCount_eq _, renderFrom_placeholder construction 0, ?_⟩
  rw [ownParams, made, ← renderParts_literal 0]
  exact renderFrom_ofPieces _ construction.pieces 0

/-- What follows a statement: the parameters of both are bound one after
another, each to its own placeholder, and the placeholders of the second are
numbered on from those of the first. -/
structure Follows (dialect : Dialect) (before after : Construction) : Prop where
  params : (before.statement ++ after.statement).params =
    before.statement.params ++ after.statement.params
  bound : ∀ position,
    (before.statement ++
        after.statement).params[before.statement.paramCount + position]? =
      after.statement.params[position]?
  executable : (before.statement ++ after.statement).executable dialect =
    before.statement.executable dialect ++
      fill after.pieces
        (placeholdersAfter dialect before.statement.paramCount
          after.statement.paramCount)
  literal : (before.statement ++ after.statement).literal dialect =
    before.statement.literal dialect ++ after.statement.literal dialect

theorem follows (before after : Construction) :
    Follows dialect before after := by
  refine ⟨params_append _ _, ?_, ?_, literal_append _ _⟩
  · intro position
    rw [params_append, paramCount_eq,
      List.getElem?_append_right (Nat.le_add_right _ _),
      Nat.add_sub_cancel_left]
  · rw [executable_eq_renderFrom, renderFrom_append,
      renderFrom_placeholder after, ← executable_eq_renderFrom, Nat.zero_add,
        paramCount_eq before.statement]

/-- Every construction has its placeholders and literals in the places of its
parameters.  What is appended keeps its parameters and is numbered on, and
joining is appending with the separator between one item and the next. -/
theorem placeholders_aligned (dialect : Dialect) :
    (∀ construction, Aligned dialect construction) ∧
      (∀ before after, Follows dialect before after) ∧
      ∀ separator items,
        join separator items =
          (items.intersperse (ofSql separator)).foldl (· ++ ·) empty :=
  ⟨aligned, follows, join_eq_foldl⟩

end RecordSql.Statement
