import RecordSql.Predicate

/-!
# Queries

SELECT statements over criteria: with a list of fields, around a query written
by the caller, and for counting rows. All three restrict by the same predicate.
-/

namespace RecordSql

namespace Composer

/-- Quoted names with commas between them, a star for none. -/
def fieldList (composer : Composer) (fields : List String) : String :=
  if fields.isEmpty then "*" else ", ".intercalate (fields.map composer.quote)

/-- The GROUP BY and ORDER BY clauses of a filter, as the filter has them. -/
def ordering (filter : Filter) : String :=
  (if filter.groupBy.isEmpty then ""
    else " GROUP BY " ++ ", ".intercalate filter.groupBy) ++
    (if filter.sort.isEmpty then ""
      else
        " ORDER BY " ++ ", ".intercalate
          (filter.sort.map fun key =>
            key.field ++ " " ++ key.direction.keyword))

/-- What criteria put after the predicate. -/
def orderingOf : Criteria → String
  | .filter filter => ordering filter
  | _ => ""

def isOrdered : Criteria → Bool
  | .filter filter => !filter.sort.isEmpty
  | _ => false

def selectHead (composer : Composer) (table : String) (fields : List String)
    (page : Option Page) : String :=
  "SELECT " ++
    (match page.bind composer.dialect.pagePrefix? with
      | some limit => limit ++ " "
      | none => "") ++
    composer.fieldList fields ++ " FROM " ++ composer.quote table

/-- A SELECT of fields. A window given here goes before the filter's own. -/
def select (composer : Composer) (metadata : Option Table) (table : String)
    (fields : List String) (criteria : Criteria) (page : Option Page) :
    Except Fault Statement := do
  let page := page <|> criteria.page?
  let predicate ← composer.predicate metadata criteria
  let suffix :=
    page.bind fun page => composer.dialect.pageSuffix? page (isOrdered criteria)
  pure ((Statement.ofSql (composer.selectHead table fields page) ++
    predicate.whereClause).sql (orderingOf criteria) |>.sql (suffix.getD ""))

/-- A query written by the caller with predicate, ordering and
window after it. -/
def extendQuery (composer : Composer) (metadata : Option Table) (query : String)
    (criteria : Criteria) : Except Fault Statement := do
  let predicate ← composer.predicate metadata criteria
  let limit := criteria.page?.map fun page =>
    composer.dialect.trailingPage page (isOrdered criteria)
  pure ((Statement.ofSql query ++ predicate.whereClause).sql
    (orderingOf criteria) |>.sql (limit.getD ""))

/-- The number of rows that criteria select. -/
def count (composer : Composer) (metadata : Option Table) (table : String)
    (criteria : Criteria) : Except Fault Statement := do
  let predicate ← composer.predicate metadata criteria
  pure (Statement.ofSql
      ("SELECT count(*) AS total FROM " ++ composer.quote table) ++
    predicate.whereClause)

end Composer

end RecordSql
