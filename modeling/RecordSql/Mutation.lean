import RecordSql.Predicate

/-!
# Mutations

INSERT, UPDATE and DELETE statements. Values are bound by their columns, in the
order of the columns.
-/

namespace RecordSql

structure Assignment where
  column : Column
  value : Value
  deriving DecidableEq

inductive Adjustment where
  | increase
  | decrease
  deriving DecidableEq

def Adjustment.sign : Adjustment → String
  | increase => "+"
  | decrease => "-"

/-- The columns of a table that a record has, in column order,
with their values. -/
def Table.assignments (table : Table) (record : Record) : List Assignment :=
  table.columns.filterMap fun column =>
    (record.get? column.name).map fun value => ⟨column, value⟩

namespace Composer

def assignmentParam (composer : Composer) (assignment : Assignment) :
    Except Fault Param :=
  composer.formats.bind assignment.value assignment.column

/-- An INSERT of the columns that a record has. -/
def insert (composer : Composer) (metadata : Table) (table : String)
    (record : Record) (ignore : Bool) : Except Fault Statement := do
  let verb :=
    if ignore then composer.dialect.insertIgnoring?.getD "INSERT" else "INSERT"
  let assignments := metadata.assignments record
  let params ← assignments.mapM composer.assignmentParam
  let head := Statement.ofSql (verb ++ " INTO " ++ composer.quote table)
  if assignments.isEmpty then pure (head.sql composer.dialect.defaultValues)
  else
    let names :=
      assignments.map fun assignment => composer.quote assignment.column.name
    pure
      ((head.sql (" (" ++ ", ".intercalate names ++ ") VALUES (") ++
        paramList params).sql ")")

def assignment (composer : Composer) (assignment : Assignment) :
    Except Fault Statement := do
  let bound ← composer.assignmentParam assignment
  pure ((Statement.ofSql (composer.quote assignment.column.name ++ " = ")).param
    bound)

/-- An UPDATE of some columns where a predicate holds. -/
def update (composer : Composer) (table : String)
    (assignments : List Assignment) (predicate : Statement) :
    Except Fault Statement := do
  let sets ← assignments.mapM composer.assignment
  pure (Statement.ofSql ("UPDATE " ++ composer.quote table ++ " SET ") ++
    Statement.join ", " sets ++ predicate.whereClause)

/-- An UPDATE that adds to a column or takes from it, null counting as zero. -/
def adjust (composer : Composer) (table field : String)
    (adjustment : Adjustment) (quantity : Param) (predicate : Statement) :
    Statement :=
  let quoted := composer.quote field
  (Statement.ofSql
    ("UPDATE " ++ composer.quote table ++ " SET " ++ quoted ++ " = COALESCE(" ++
      quoted ++ ",0) " ++ adjustment.sign ++ " ")).param quantity ++
    predicate.whereClause

def delete (composer : Composer) (table : String) (predicate : Statement) :
    Statement :=
  Statement.ofSql ("DELETE FROM " ++ composer.quote table) ++
    predicate.whereClause

end Composer

end RecordSql
