import RecordSql.Proofs.Statement.Composition

/-!
# Constructions of statements

A construction is the way in which a statement is put together, with statements
inside statements as deep as one likes.  Its pieces are the texts and parameters
that it names, from left to right.  The statement that is constructed is the one
that takes in these pieces one by one, so what holds of adding one piece holds
of every construction.
-/

namespace RecordSql

inductive Construction where
  | nothing
  | ofSql (text : String)
  | sql (before : Construction) (text : String)
  | param (before : Construction) (value : Param)
  | append (before after : Construction)
  | join (separator : String) (items : List Construction)
  | whereClause (predicate : Construction)

namespace Construction

mutual

/-- The statement that is constructed. -/
def statement : Construction → Statement
  | nothing => .empty
  | ofSql text => .ofSql text
  | sql before text => before.statement.sql text
  | param before value => before.statement.param value
  | append before after => before.statement ++ after.statement
  | join separator items => .join separator (statementList items)
  | whereClause predicate => predicate.statement.whereClause

/-- The statements of several constructions. -/
def statementList : List Construction → List Statement
  | [] => []
  | item :: items => item.statement :: statementList items

end

mutual

/-- The texts and parameters of a construction in their order, as
they were given. -/
def pieces : Construction → List StatementPart
  | nothing => []
  | ofSql text => [.text text]
  | sql before text => before.pieces ++ [.text text]
  | param before value => before.pieces ++ [.param value]
  | append before after => before.pieces ++ after.pieces
  | join separator items => [.text separator].intercalate (piecesList items)
  | whereClause predicate =>
    if ∀ piece ∈ predicate.pieces, piece = .text "" then []
    else .text " WHERE " :: predicate.pieces

/-- The pieces of several constructions. -/
def piecesList : List Construction → List (List StatementPart)
  | [] => []
  | item :: items => item.pieces :: piecesList items

end

end Construction

namespace Statement

theorem ofPieces_concat (pieces : List StatementPart)
    (last : StatementPart) :
    ofPieces (pieces ++ [last]) = (ofPieces pieces).part last := by
  rw [ofPieces, List.foldl_append]
  rfl

theorem ofPieces_append (pieces others : List StatementPart) :
    ofPieces (pieces ++ others) = ofPieces pieces ++ ofPieces others := by
  induction others using List.reverseRecOn with
  | nil => rw [List.append_nil]; rfl
  | append_singleton others last induction =>
      rw [← List.append_assoc, ofPieces_concat, ofPieces_concat, induction,
        append_part]

theorem join_ofPieces (separator : String) (items : List (List StatementPart)) :
    join separator (items.map ofPieces) =
      ofPieces ([.text separator].intercalate items) := by
  induction items with
  | nil => rfl
  | cons first rest induction =>
      rw [List.map_cons, join_cons]
      cases rest with
      | nil => rw [List.intercalate_singleton]; rfl
      | cons next rest =>
          rw [List.map_cons, join_cons] at induction
          rw [List.map_cons, eachAfter, List.intercalate_cons_cons,
            ofPieces_append, ofPieces_append, ← induction, append_assoc,
            append_assoc]
          rfl

theorem isEmpty_iff {statement : Statement} :
    statement.isEmpty = true ↔ statement = empty := by
  rw [isEmpty, List.isEmpty_iff, Statement.ext_iff, parts_empty]

theorem part_eq_empty_iff {statement : Statement} {piece : StatementPart} :
    statement.part piece = empty ↔
      statement = empty ∧ piece = .text "" := by
  rw [Statement.ext_iff, Statement.ext_iff]
  cases piece with
  | param value => simp [part]
  | text text =>
      by_cases nothing : text = ""
      · simp [part, nothing]
      · rcases addText_cases nothing statement.parts with
          ⟨_, _, _, added⟩ | ⟨_, added⟩ <;> simp [part, added, nothing]

theorem ofPieces_eq_empty_iff {pieces : List StatementPart} :
    ofPieces pieces = empty ↔ ∀ piece ∈ pieces, piece = .text "" := by
  induction pieces using List.reverseRecOn with
  | nil => simp [ofPieces]
  | append_singleton pieces last induction =>
      rw [ofPieces_concat, part_eq_empty_iff, induction, List.forall_mem_append,
        List.forall_mem_singleton]

theorem whereClause_ofPieces (pieces : List StatementPart) :
    (ofPieces pieces).whereClause =
      ofPieces (if ∀ piece ∈ pieces, piece = .text "" then []
    else .text " WHERE " :: pieces) := by
  rw [whereClause]
  by_cases blank : ∀ piece ∈ pieces, piece = .text ""
  · have nothing := ofPieces_eq_empty_iff.mpr blank
    rw [if_pos (isEmpty_iff.mpr nothing), if_pos blank, nothing]
    rfl
  · have content :=
      mt (fun nothing => ofPieces_eq_empty_iff.mp (isEmpty_iff.mp nothing))
        blank
    rw [if_neg content, if_neg blank]
    exact (ofPieces_append [.text " WHERE "] pieces).symm

end Statement

namespace Construction

open Statement

mutual

/-- Whatever the nesting, a statement takes in the pieces of its
construction. -/
theorem statement_eq_ofPieces (construction : Construction) :
    construction.statement = ofPieces construction.pieces := by
  cases construction with
  | nothing => rfl
  | ofSql text => rfl
  | sql before text =>
      rw [statement, statement_eq_ofPieces before, pieces, ofPieces_concat]
      rfl
  | param before value =>
      rw [statement, statement_eq_ofPieces before, pieces, ofPieces_concat]
      rfl
  | append before after =>
      rw [statement, statement_eq_ofPieces before, statement_eq_ofPieces after,
        pieces, ofPieces_append]
  | join separator items =>
      rw [statement, statementList_eq_map items, pieces, join_ofPieces]
  | whereClause predicate =>
      rw [statement, statement_eq_ofPieces predicate, pieces,
        whereClause_ofPieces]

theorem statementList_eq_map (items : List Construction) :
    statementList items = (piecesList items).map ofPieces := by
  cases items with
  | nil => rfl
  | cons item items =>
      rw [statementList, statement_eq_ofPieces item, statementList_eq_map items,
        piecesList, List.map_cons]

end

end Construction

end RecordSql
