import RecordSql.Mutation
import RecordSql.Proofs.Outcome
import RecordSql.Proofs.Statement.Form

/-!
# Texts of mutations
-/

namespace RecordSql.Composer

variable {composer : Composer} {statement : Statement}

private theorem exists_verb (dialect : Dialect) (ignore : Bool) :
    ∃ rest,
      (if ignore then dialect.insertIgnoring?.getD "INSERT" else "INSERT") =
        "INSERT" ++ rest := by
  cases ignore with
  | false => exact ⟨"", rfl⟩
  | true =>
      cases dialect with
      | mysql sequenceFunction => exact ⟨" IGNORE", rfl⟩
      | sqlserver => exact ⟨"", rfl⟩
      | sqlite => exact ⟨" OR IGNORE", rfl⟩

theorem executable_insert {metadata : Table} {table : String} {record : Record}
    {ignore : Bool} (dialect : Dialect)
    (composed : composer.insert metadata table record ignore = .ok statement) :
    ∃ rest, statement.executable dialect = "INSERT" ++ rest := by
  obtain ⟨params, _, built⟩ := Outcome.bind_eq_ok_iff.mp composed
  obtain ⟨more, verb⟩ := exists_verb composer.dialect ignore
  simp only [verb] at built
  split at built
  · rw [← Except.ok.inj built, Statement.executable_eq_renderFrom,
      Statement.renderFrom_sql, Statement.renderFrom_ofSql]
    simp only [String.append_assoc]
    exact ⟨_, rfl⟩
  · rw [← Except.ok.inj built, Statement.executable_eq_renderFrom,
      Statement.renderFrom_sql, Statement.renderFrom_append,
      Statement.renderFrom_sql, Statement.renderFrom_ofSql]
    simp only [String.append_assoc]
    exact ⟨_, rfl⟩

/-- What an update changes stands before what it is restricted by. -/
theorem exists_head_of_update {table : String} {assignments : List Assignment}
    {predicate : Statement}
    (composed : composer.update table assignments predicate = .ok statement) :
    ∃ head, statement = head ++ predicate.whereClause := by
  obtain ⟨sets, _, built⟩ := Outcome.bind_eq_ok_iff.mp composed
  exact ⟨_, (Except.ok.inj built).symm⟩

end RecordSql.Composer
