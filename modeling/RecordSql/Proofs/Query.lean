import RecordSql.Proofs.Predicate.Confinement
import RecordSql.Query

/-!
# Queries around a predicate

A SELECT, a query of the caller and a count by the same criteria are
all composed around the predicate of these, and are refused for the
reason for which it is.
-/

namespace RecordSql

/-- A query with a predicate between two texts. -/
def Statement.around (head tail : String) (predicate : Statement) : Statement :=
  (ofSql head ++ predicate.whereClause).sql tail

@[simp] theorem Statement.params_around (head tail : String)
    (predicate : Statement) :
    (around head tail predicate).params = predicate.params := by
  simp [around]

namespace Composer

/-- A query that is composed around a predicate if there is one, and refused
like it if not. Its parameters are those of the predicate. -/
structure Surrounds (head tail : String)
    (predicate query : Except Fault Statement) : Prop where
  composed : query = predicate.map (Statement.around head tail)
  params : query.map Statement.params = predicate.map Statement.params

/-- Every query by some criteria is composed around their predicate. -/
structure QueriesAround (composer : Composer) (metadata : Option Table)
    (criteria : Criteria) : Prop where
  select : ∀ table fields page, ∃ head tail,
    Surrounds head tail (composer.predicate metadata criteria)
      (composer.select metadata table fields criteria page)
  extendQuery : ∀ query, ∃ tail,
    Surrounds query tail (composer.predicate metadata criteria)
      (composer.extendQuery metadata query criteria)
  count : ∀ table, ∃ head, Surrounds head ""
    (composer.predicate metadata criteria)
    (composer.count metadata table criteria)

variable {composer : Composer} {metadata : Option Table} {criteria : Criteria}

theorem surrounds_of_eq {head tail : String}
    {predicate query : Except Fault Statement}
    (composed : query = predicate.map (Statement.around head tail)) :
    Surrounds head tail predicate query where
  composed := composed
  params := by
    rw [composed]
    cases predicate with
    | error fault => rfl
    | ok statement =>
        exact congrArg Except.ok (Statement.params_around head tail statement)

/-- What a SELECT has after its predicate. -/
def selectTail (composer : Composer) (criteria : Criteria)
    (page : Option Page) : String :=
  orderingOf criteria ++
    (page.bind fun page =>
      composer.dialect.pageSuffix? page (isOrdered criteria)).getD ""

theorem surrounds_select (table : String) (fields : List String)
    (page : Option Page) :
    Surrounds (composer.selectHead table fields (page <|> criteria.page?))
      (composer.selectTail criteria (page <|> criteria.page?))
      (composer.predicate metadata criteria)
      (composer.select metadata table fields criteria page) := by
  apply surrounds_of_eq
  unfold Composer.select
  dsimp only
  cases composer.predicate metadata criteria with
  | error fault => rfl
  | ok predicate => exact congrArg Except.ok (Statement.sql_sql _ _ _)

/-- What a query of the caller has after its predicate. -/
def queryTail (composer : Composer) (criteria : Criteria) : String :=
  orderingOf criteria ++
    (criteria.page?.map fun page =>
      composer.dialect.trailingPage page (isOrdered criteria)).getD ""

theorem surrounds_extendQuery (query : String) :
    Surrounds query (composer.queryTail criteria)
      (composer.predicate metadata criteria)
      (composer.extendQuery metadata query criteria) := by
  apply surrounds_of_eq
  unfold Composer.extendQuery
  cases composer.predicate metadata criteria with
  | error fault => rfl
  | ok predicate => exact congrArg Except.ok (Statement.sql_sql _ _ _)

theorem surrounds_count (table : String) :
    Surrounds ("SELECT count(*) AS total FROM " ++ composer.quote table) ""
      (composer.predicate metadata criteria)
      (composer.count metadata table criteria) := by
  apply surrounds_of_eq
  unfold Composer.count
  cases composer.predicate metadata criteria with
  | error fault => rfl
  | ok predicate => exact congrArg Except.ok (Statement.sql_nothing _).symm

theorem queriesAround (composer : Composer) (metadata : Option Table)
    (criteria : Criteria) : composer.QueriesAround metadata criteria where
  select table fields page := ⟨_, _, surrounds_select table fields page⟩
  extendQuery query := ⟨_, surrounds_extendQuery query⟩
  count table := ⟨_, surrounds_count table⟩

end Composer

end RecordSql
