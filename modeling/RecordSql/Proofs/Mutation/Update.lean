import RecordSql.Proofs.Mutation.Insert
import RecordSql.Proofs.Predicate.Confinement

/-!
# What an update sets

An UPDATE with a condition is read as the list of its columns in the order of
the assignments, each set to the parameter at its place.  The parameters of the
condition stand after these, and its placeholders are counted on from theirs.
-/

namespace RecordSql

namespace Dialect

/-- A column that is set to the parameter at a position. -/
def settingText (dialect : Dialect) (setting : Column × Nat) : String :=
  dialect.quoteName setting.1.name ++ " = " ++ dialect.placeholder setting.2

/-- Columns that are set to the parameters from the first one on. -/
def settingsText (dialect : Dialect) (columns : List Column) : String :=
  ", ".intercalate ((columns.zipIdx 1).map dialect.settingText)

end Dialect

namespace Composer

variable {composer : Composer} {table : String} {columns : List Column}
  {params : List Param} {assignments : List Assignment} {predicate : Statement}

def setting (composer : Composer) (column : Column) (param : Param) :
    Statement :=
  (Statement.ofSql (composer.quote column.name ++ " = ")).param param

/-- An UPDATE that sets columns to parameters where a predicate holds. -/
def updateOf (composer : Composer) (table : String) (columns : List Column)
    (predicate : Statement) (params : List Param) : Statement :=
  Statement.ofSql ("UPDATE " ++ composer.quote table ++ " SET ") ++
    Statement.join ", " (List.zipWith composer.setting columns params) ++
    predicate.whereClause

private theorem mapM_assignment (assignments : List Assignment) :
    assignments.mapM composer.assignment =
      List.zipWith composer.setting (assignments.map Assignment.column) <$>
        assignments.mapM composer.assignmentParam := by
  induction assignments with
  | nil => rfl
  | cons first rest induction =>
      rw [List.mapM_cons, List.mapM_cons, induction, assignment]
      cases composer.assignmentParam first with
      | error fault => rfl
      | ok param =>
          cases rest.mapM composer.assignmentParam with
          | error fault => rfl
          | ok params => rfl

theorem update_eq_map :
    composer.update table assignments predicate =
      composer.updateOf table (assignments.map Assignment.column) predicate <$>
        assignments.mapM composer.assignmentParam := by
  rw [update, mapM_assignment]
  cases assignments.mapM composer.assignmentParam with
  | error fault => rfl
  | ok params => rfl

private theorem flatMap_params_settings
    (same : columns.length = params.length) :
    (List.zipWith composer.setting columns params).flatMap Statement.params =
      params := by
  induction columns generalizing params with
  | nil => exact (List.eq_nil_of_length_eq_zero same.symm).symm
  | cons column columns induction =>
      cases params with
      | nil => cases same
      | cons param params =>
          rw [List.zipWith_cons_cons, List.flatMap_cons,
            induction (Nat.succ.inj same)]
          simp [setting]

theorem params_updateOf (same : columns.length = params.length) :
    (composer.updateOf table columns predicate params).params =
      params ++ predicate.params := by
  simp [updateOf, Statement.params_join, flatMap_params_settings same]

private theorem renderEach_settings (before : Nat)
    (same : columns.length = params.length) :
    Statement.renderEach (fun position _ =>
        composer.dialect.placeholder position) before
        (List.zipWith composer.setting columns params) =
      (columns.zipIdx (before + 1)).map composer.dialect.settingText := by
  induction columns generalizing params before with
  | nil => rfl
  | cons column columns induction =>
      cases params with
      | nil => cases same
      | cons param params =>
          have further := induction (before + 1) (Nat.succ.inj same)
          simp [Statement.renderEach, setting, Dialect.settingText,
            quote, further]

theorem executable_updateOf (same : columns.length = params.length)
    (present : predicate.isEmpty = false) :
    (composer.updateOf table columns predicate params).executable
        composer.dialect =
      "UPDATE " ++ composer.quote table ++ " SET " ++
        composer.dialect.settingsText columns ++
        " WHERE " ++ predicate.renderFrom
          (fun position _ => composer.dialect.placeholder position)
          params.length := by
  rw [Statement.executable_eq_renderFrom]
  simp [updateOf, Statement.whereClause, present, Statement.renderFrom_join,
    renderEach_settings 0 same, Dialect.settingsText, Statement.params_join,
    flatMap_params_settings same, String.append_assoc]

end Composer

namespace Dialect

variable {dialect : Dialect} {rest : List Char} {columns : List Column}

private theorem readSetting_settingText (setting : Column × Nat)
    (ends : dialect.EndsSegment rest) :
    dialect.readSetting ((dialect.settingText setting).toList ++ rest) =
      some ((Text.splitOn (· == '.') setting.1.name.toList,
        dialect.number? setting.2), rest) := by
  obtain ⟨column, position⟩ := setting
  have equals (text : List Char) :
      Text.afterWord? " = " (' ' :: '=' :: ' ' :: text) = some text :=
    @Text.afterWord?_append " = " [' ', '=', ' '] rfl text
  have named := readName_quoteChars column.name.toList
    (@endsName_cons dialect ('=' :: ' ' ::
      ((dialect.placeholder position).toList ++ rest)) ' ' (by simp))
  have numbered := readNumbered_placeholder position ends
  have written : (dialect.settingText (column, position)).toList ++ rest =
      dialect.quoteChars column.name.toList ++
        ' ' :: '=' :: ' ' ::
          ((dialect.placeholder position).toList ++ rest) := by
    simp [settingText, quoteName]
  rw [written]
  simp only [readSetting, Option.bind_eq_bind, Option.bind_some, named,
    equals, numbered]

private theorem settingText_ne_nil (dialect : Dialect)
    (setting : Column × Nat) : (dialect.settingText setting).toList ≠ [] := by
  have named := dialect.quoteChars_ne_nil setting.1.name.toList
  simp [settingText, quoteName, named]

private theorem readItems_settingsText (several : columns ≠ [])
    (condition : List Char) :
    Text.readItems [',', ' '] dialect.readSetting
        ((dialect.settingsText columns).toList ++
          (" WHERE ".toList ++ condition)) =
      some ((columns.zipIdx 1).map fun setting =>
        (Text.splitOn (· == '.') setting.1.name.toList,
          dialect.number? setting.2),
        " WHERE ".toList ++ condition) := by
  have present : columns.zipIdx 1 ≠ [] := by simpa using several
  have blank : " WHERE ".toList ++ condition =
      ' ' :: ("WHERE ".toList ++ condition) := by simp
  rw [settingsText, String.toList_intercalate, List.map_map, blank]
  exact Text.readItems_intercalate present
    (fun setting _ => dialect.settingText_ne_nil setting)
    (fun setting _ _ => readSetting_settingText setting)
    dialect.endsSegment_comma (endsName_cons (by simp)).1
    (by simp [List.isPrefixOf?])

private theorem readName_set (dialect : Dialect) (table : String)
    (rest : List Char) :
    dialect.readName
        (dialect.quoteChars table.toList ++ (" SET ".toList ++ rest)) =
      some (Text.splitOn (· == '.') table.toList, " SET ".toList ++ rest) := by
  have blank : " SET ".toList ++ rest = ' ' :: ("SET ".toList ++ rest) := by
    simp
  rw [blank]
  exact readName_quoteChars table.toList (endsName_cons (by simp))

/-- The columns are read in their order, with the positions from one on, and the
condition is what follows. -/
theorem readUpdate?_settingsText (dialect : Dialect) (table : String)
    (several : columns ≠ []) (condition : List Char) :
    dialect.readUpdate? ("UPDATE ".toList ++ (dialect.quoteChars table.toList ++
        (" SET ".toList ++ ((dialect.settingsText columns).toList ++
          (" WHERE ".toList ++ condition))))) =
      some ⟨Text.splitOn (· == '.') table.toList,
        columns.map fun column => Text.splitOn (· == '.') column.name.toList,
          List.range' 1 columns.length, condition⟩ := by
  have updates (text : List Char) :
      Text.afterWord? "update " ("UPDATE ".toList ++ text) = some text :=
    Text.afterWord?_append rfl text
  have sets (text : List Char) :
      Text.afterWord? " set " (" SET ".toList ++ text) = some text :=
    Text.afterWord?_append rfl text
  have restricts (text : List Char) :
      Text.afterWord? " where " (" WHERE ".toList ++ text) = some text :=
    Text.afterWord?_append rfl text
  simp only [readUpdate?, Option.bind_eq_bind, Option.bind_some, updates,
    readName_set, sets, readItems_settingsText several, restricts, List.map_map]
  have columnsRead : (columns.zipIdx 1).map (Prod.fst ∘ fun setting =>
      (Text.splitOn (· == '.') setting.1.name.toList,
          dialect.number? setting.2)) =
        columns.map fun column =>
          Text.splitOn (· == '.') column.name.toList := by
    nth_rewrite 2 [← List.zipIdx_map_fst 1 columns]
    rw [List.map_map]
    rfl
  have numbersRead : (columns.zipIdx 1).map (Prod.snd ∘ fun setting =>
      (Text.splitOn (· == '.') setting.1.name.toList,
          dialect.number? setting.2)) =
        (List.range' 1 columns.length).map dialect.number? := by
    rw [← List.zipIdx_map_snd 1 columns, List.map_map]
    rfl
  rw [columnsRead, numbersRead, positions_number?]

end Dialect

theorem Composer.readUpdate?_updateOf {composer : Composer} {table : String}
    {columns : List Column} {params : List Param} {predicate : Statement}
    (several : columns ≠ []) (same : columns.length = params.length)
    (present : predicate.isEmpty = false) :
    composer.dialect.readUpdate?
        ((composer.updateOf table columns predicate params).executable
          composer.dialect).toList =
      some ⟨Text.splitOn (· == '.') table.toList,
        columns.map fun column => Text.splitOn (· == '.') column.name.toList,
          List.range' 1 columns.length,
          (predicate.renderFrom (fun position _ =>
            composer.dialect.placeholder position) columns.length).toList⟩ := by
  rw [executable_updateOf same present, ← same,
    ← composer.dialect.readUpdate?_settingsText _ several]
  simp only [quote, Dialect.quoteName, String.toList_append,
    String.toList_ofList, List.append_assoc]

end RecordSql
