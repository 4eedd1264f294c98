import RecordSql.Predicate
import RecordSql.Proofs.Outcome
import RecordSql.Proofs.Statement.Composition

/-!
# The test of a key

A key whose value is null is tested for null, and any other is compared with
the parameter that its value is bound to.  It is refused only if the value
does not bind.
-/

namespace RecordSql.Composer

variable {composer : Composer} {table : Option Table} {name : String}
  {value : Value}

/-- What a key is bound to: by the column of its name if there is one, else
by its own kind. -/
inductive BindsKey (composer : Composer) (table : Option Table) (name : String)
    (value : Value) (param : Param) : Prop where
  | byColumn {column : Column} (found : columnOf? table name = some column)
      (bound : composer.formats.bind value column = .ok param)
  | byKind (unknown : columnOf? table name = none)
      (bound : composer.formats.bindOperand value = .ok param)

/-- The test of a name with its value. -/
inductive TestsKey (composer : Composer) (table : Option Table) :
    String × Value → Statement → Prop where
  | null (name : String) :
      TestsKey composer table (name, .null)
        (.ofSql (composer.quote name ++ " IS NULL"))
  | equal {name : String} {value : Value} {param : Param}
      (present : value ≠ .null)
      (binds : composer.BindsKey table name value param) :
      TestsKey composer table (name, value)
        ((Statement.ofSql (composer.quote name ++ " = ")).param param)

theorem keyParam_eq_ok_iff {param : Param} :
    composer.keyParam table name value = .ok param ↔
      composer.BindsKey table name value param := by
  unfold keyParam
  cases found : columnOf? table name with
  | some column =>
      constructor
      · exact .byColumn found
      · rintro (⟨known, bound⟩ | ⟨unknown, _⟩)
        · cases found.symm.trans known
          exact bound
        · cases found.symm.trans unknown
  | none =>
      constructor
      · exact .byKind found
      · rintro (⟨known, _⟩ | ⟨_, bound⟩)
        · cases found.symm.trans known
        · exact bound

theorem keyClause_eq_ok_iff {test : Statement} :
    composer.keyClause table name value = .ok test ↔
      composer.TestsKey table (name, value) test := by
  unfold keyClause
  cases null : value.isNull with
  | true =>
      obtain rfl := Value.isNull_iff.mp null
      rw [if_pos rfl, Statement.ofSql_sql, Except.ok.injEq]
      constructor
      · rintro rfl
        exact .null name
      · rintro (_ | ⟨present, _⟩)
        · rfl
        · exact absurd rfl present
  | false =>
      have present := Value.isNull_eq_false_iff.mp null
      rw [if_neg Bool.false_ne_true, Statement.ofSql_sql,
        Outcome.bind_eq_ok_iff]
      constructor
      · rintro ⟨param, bound, built⟩
        obtain rfl := Except.ok.inj built
        exact .equal present (keyParam_eq_ok_iff.mp bound)
      · rintro (_ | ⟨_, binds⟩)
        · exact absurd rfl present
        · exact ⟨_, keyParam_eq_ok_iff.mpr binds, rfl⟩

theorem keyClause_eq_error_iff {fault : Fault} :
    composer.keyClause table name value = .error fault ↔
      value ≠ .null ∧ composer.keyParam table name value = .error fault := by
  unfold keyClause
  cases null : value.isNull with
  | true => simp [Value.isNull_iff.mp null]
  | false =>
      have present := Value.isNull_eq_false_iff.mp null
      rw [if_neg Bool.false_ne_true, Outcome.bind_eq_error_iff]
      constructor
      · rintro (refused | ⟨_, _, built⟩)
        · exact ⟨present, refused⟩
        · cases built
      · exact fun refused => .inl refused.2

end RecordSql.Composer
