import RecordSql.Mutation
import RecordSql.Mutation.Reading
import RecordSql.Proofs.Dialect.Reading
import RecordSql.Proofs.Number.Whole
import RecordSql.Proofs.Predicate.Elements

/-!
# What an insert sets

An INSERT is read as a list of the columns that the record has, in the order of
the table, each set to the parameter at its place, which is the value of the
record bound to the column.  It is refused exactly if one of these values does
not bind, for the first such column.
-/

namespace RecordSql

/-- The columns of a table that a record has, null or not, in their order. -/
def Table.presentColumns (table : Table) (record : Record) : List Column :=
  table.columns.filter fun column => record.has column.name

namespace Table

variable {table : Table} {record : Record}

theorem column_assignments (table : Table) (record : Record) :
    (table.assignments record).map Assignment.column =
      table.presentColumns record := by
  obtain ⟨name, columns⟩ := table
  unfold assignments presentColumns Record.has
  induction columns with
  | nil => rfl
  | cons column columns induction =>
      cases given : record.get? column.name with
      | none => simpa [given] using induction
      | some value => simpa [given] using induction

/-- The assignments to some of the columns are those of the table
with these alone. -/
theorem filter_assignments (table : Table) (record : Record)
    (test : Column → Bool) :
    ((table.assignments record).filter fun assignment =>
        test assignment.column) =
      Table.assignments { table with columns := table.columns.filter test }
        record := by
  unfold assignments
  rw [List.filter_filterMap, List.filterMap_filter]
  congr 1
  funext column
  cases record.get? column.name with
  | none => cases test column <;> rfl
  | some value => cases kept : test column <;> simp [Option.filter, kept]

theorem get?_of_mem_assignments {assignment : Assignment}
    (member : assignment ∈ table.assignments record) :
    record.get? assignment.column.name = some assignment.value := by
  obtain ⟨column, _, made⟩ := List.mem_filterMap.mp member
  obtain ⟨value, given, rfl⟩ := Option.map_eq_some_iff.mp made
  exact given

end Table

namespace Dialect

def insertVerb (dialect : Dialect) (ignore : Bool) : String :=
  if ignore then dialect.insertIgnoring?.getD "INSERT" else "INSERT"

def columnsText (dialect : Dialect) (columns : List Column) : String :=
  ", ".intercalate (columns.map fun column => dialect.quoteName column.name)

def placeholdersText (dialect : Dialect) (count : Nat) : String :=
  ", ".intercalate ((List.range' 1 count).map dialect.placeholder)

/-- What stands after the table in an INSERT of columns. -/
def valuesText (dialect : Dialect) (columns : List Column) : String :=
  if columns.isEmpty then dialect.defaultValues
  else
    " (" ++ dialect.columnsText columns ++ ") VALUES (" ++
      dialect.placeholdersText columns.length ++ ")"

end Dialect

namespace Composer

variable {composer : Composer} {metadata : Table} {table : String}
  {record : Record} {ignore : Bool}

/-- A column is the first one that the record has a value for
which does not bind. -/
def RefusesFirst (composer : Composer) (table : Table) (record : Record)
    (fault : Fault) : Prop :=
  ∃ before column after value, table.columns = before ++ column :: after ∧
    (∀ earlier ∈ before, ∀ value, record.get? earlier.name = some value →
      ∃ param, composer.formats.bind value earlier = .ok param) ∧
    record.get? column.name = some value ∧
    composer.formats.bind value column = .error fault

theorem mapM_assignments_eq_error_iff {fault : Fault} :
    (metadata.assignments record).mapM composer.assignmentParam = .error fault ↔
      composer.RefusesFirst metadata record fault := by
  obtain ⟨name, columns⟩ := metadata
  rw [Outcome.mapM_eq_error_iff]
  constructor
  · rintro ⟨before, assignment, after, split, earlierOk, refused⟩
    obtain ⟨front, rest, rfl, beforeMade, restMade⟩ :=
      List.filterMap_eq_append_iff.mp split
    obtain ⟨absent, column, back, rfl, noneGiven, made, _⟩ :=
      List.filterMap_eq_cons_iff.mp restMade
    obtain ⟨value, given, rfl⟩ := Option.map_eq_some_iff.mp made
    refine ⟨front ++ absent, column, back, value, by simp, ?_, given, refused⟩
    intro earlier member value earlierGiven
    have assigned : (record.get? earlier.name).map (Assignment.mk earlier) =
        some ⟨earlier, value⟩ := by rw [earlierGiven, Option.map_some]
    rcases List.mem_append.mp member with inFront | inAbsent
    · apply earlierOk ⟨earlier, value⟩
      rw [← beforeMade]
      exact List.mem_filterMap.mpr ⟨earlier, inFront, assigned⟩
    · rw [noneGiven earlier inAbsent] at assigned
      cases assigned
  · rintro ⟨before, column, after, value, rfl, earlierOk, given, refused⟩
    refine ⟨Table.assignments ⟨name, before⟩ record, ⟨column, value⟩,
      Table.assignments ⟨name, after⟩ record, ?_, ?_, refused⟩
    · simp [Table.assignments, given]
    · intro assignment member
      have earlierGiven := Table.get?_of_mem_assignments member
      obtain ⟨earlier, inBefore, made⟩ := List.mem_filterMap.mp member
      obtain ⟨value, _, rfl⟩ := Option.map_eq_some_iff.mp made
      exact earlierOk earlier inBefore value earlierGiven

/-- An INSERT that sets columns to parameters. -/
def insertOf (composer : Composer) (table : String) (ignore : Bool)
    (columns : List Column) (params : List Param) : Statement :=
  let head := Statement.ofSql
    (composer.dialect.insertVerb ignore ++ " INTO " ++ composer.quote table)
  if columns.isEmpty then head.sql composer.dialect.defaultValues
  else
    ((head.sql (" (" ++ composer.dialect.columnsText columns ++
        ") VALUES (")) ++
      paramList params).sql ")"

theorem insert_eq_map :
    composer.insert metadata table record ignore =
      composer.insertOf table ignore (metadata.presentColumns record) <$>
        (metadata.assignments record).mapM composer.assignmentParam := by
  rw [← Table.column_assignments, map_eq_pure_bind]
  unfold insert insertOf Dialect.insertVerb Dialect.columnsText
  dsimp only
  congr 1
  funext params
  rw [List.isEmpty_map, List.map_map]
  split
  · rfl
  · rfl

private theorem renderEach_params (placeholder : Nat → String) (before : Nat)
    (params : List Param) :
    Statement.renderEach (fun position _ => placeholder position) before
        (params.map fun param => Statement.empty.param param) =
      (List.range' (before + 1) params.length).map placeholder := by
  induction params generalizing before with
  | nil => rfl
  | cons first rest induction =>
      rw [List.map_cons, Statement.renderEach, List.length_cons,
        List.range'_succ, List.map_cons, ← induction]
      simp

theorem executable_insertOf {columns : List Column} {params : List Param}
    (same : columns.length = params.length) :
    (composer.insertOf table ignore columns params).executable
        composer.dialect =
      composer.dialect.insertVerb ignore ++ " INTO " ++ composer.quote table ++
        composer.dialect.valuesText columns := by
  rw [Statement.executable_eq_renderFrom]
  unfold insertOf Dialect.valuesText
  split
  · simp
  · simp [paramList_eq_join, Statement.renderFrom_join, renderEach_params, same,
      Dialect.placeholdersText, String.append_assoc]

theorem params_insertOf {columns : List Column} {params : List Param}
    (same : columns.length = params.length) :
    (composer.insertOf table ignore columns params).params = params := by
  unfold insertOf
  split
  · next none =>
      rw [List.isEmpty_iff.mp none] at same
      simp [List.eq_nil_of_length_eq_zero same.symm]
  · simp [params_paramList]

end Composer

/-- The values of columns, each with the parameter at its place, or the defaults
if there are no columns. -/
def InsertedValues.ofColumns (columns : List Column) : InsertedValues :=
  if columns = [] then .defaults
  else
    .listed (columns.map fun column =>
      Text.splitOn (· == '.') column.name.toList) (List.range' 1 columns.length)

namespace Dialect

variable {dialect : Dialect} {rest : List Char}

/-- The number in the placeholder of a position, where
placeholders have numbers. -/
def number? (dialect : Dialect) (position : Nat) : Option Nat :=
  match dialect with
  | sqlserver => some position
  | _ => none

theorem readNumbered_placeholder (position : Nat)
    (ends : dialect.EndsSegment rest) :
    dialect.readNumbered ((dialect.placeholder position).toList ++ rest) =
      some (dialect.number? position, rest) := by
  cases dialect with
  | mysql _ | sqlite => simp [placeholder, readNumbered, number?]
  | sqlserver =>
      have every : ∀ digit ∈ Number.digitChars position,
          digit.isDigit = true := fun _ =>
        Nat.isDigit_of_mem_toDigits (by decide) (by decide)
      have taken := Number.takeWhile_digits every ends.digits
      have dropped := Number.dropWhile_digits every ends.digits
      simp [placeholder, Number.natText, readNumbered, number?, taken, dropped,
        Number.natOfDigits?_digitChars]

theorem positions_number? (dialect : Dialect) (count : Nat) :
    positions ((List.range' 1 count).map dialect.number?) =
      List.range' 1 count := by
  apply List.ext_getElem
  · simp [positions]
  · intro index _ _
    cases dialect <;> simp [positions, number?, Nat.add_comm]

theorem placeholder_ne_nil (dialect : Dialect) (position : Nat) :
    (dialect.placeholder position).toList ≠ [] := by
  cases dialect <;> simp [placeholder]

theorem endsSegment_comma (dialect : Dialect) (rest : List Char) :
    dialect.EndsSegment ([',', ' '] ++ rest) :=
  (endsName_cons (by simp)).1

theorem readItems_placeholder {count : Nat} (several : 0 < count) :
    Text.readItems [',', ' '] dialect.readNumbered
        ((dialect.placeholdersText count).toList ++ [')']) =
      some ((List.range' 1 count).map dialect.number?, [')']) := by
  have present : List.range' 1 count ≠ [] := by
    simpa using Nat.pos_iff_ne_zero.mp several
  rw [placeholdersText, String.toList_intercalate, List.map_map]
  exact Text.readItems_intercalate present
    (fun position _ => dialect.placeholder_ne_nil position)
    (fun position _ _ => readNumbered_placeholder position)
    dialect.endsSegment_comma (endsName_cons (by simp)).1
    (by simp [List.isPrefixOf?])

theorem readItems_quoteName {columns : List Column} (several : columns ≠ [])
    (rest : List Char) :
    Text.readItems [',', ' '] dialect.readName
        ((dialect.columnsText columns).toList ++
          (") VALUES (".toList ++ rest)) =
      some (columns.map fun column => Text.splitOn
        (· == '.') column.name.toList, ") VALUES (".toList ++ rest) := by
  have parenthesis : ") VALUES (".toList ++ rest =
      ')' :: (" VALUES (".toList ++ rest) := by simp
  rw [columnsText, String.toList_intercalate, List.map_map, parenthesis]
  exact Text.readItems_intercalate several
      (fun column _ => by
        simpa [quoteName] using dialect.quoteChars_ne_nil column.name.toList)
      (fun column _ rest ends => by
      simpa [quoteName] using readName_quoteChars column.name.toList ends)
    (fun rest =>
      endsName_cons (by simp)) (endsName_cons (by simp)) (by
      simp [List.isPrefixOf?])

private theorem afterWord?_opening (rest : List Char) :
    Text.afterWord? " (" (' ' :: '(' :: rest) = some rest :=
  @Text.afterWord?_append " (" [' ', '('] rfl rest

private theorem readListed?_defaultValues (dialect : Dialect) :
    dialect.readListed? dialect.defaultValues.toList = none := by
  cases dialect with
  | mysql sequenceFunction =>
      have parenthesis : (mysql sequenceFunction).defaultValues.toList =
          ' ' :: '(' :: ')' :: " VALUES ()".toList := by simp [defaultValues]
      have unread (rest : List Char) :
          Text.readItems [',', ' '] (mysql sequenceFunction).readName
            (')' :: rest) = none := rfl
      rw [readListed?, parenthesis, afterWord?_opening]
      simp only [Option.bind_eq_bind, Option.bind_some, unread,
        Option.bind_none]
  | sqlserver | sqlite => rfl

theorem readInsertedValues?_valuesText (dialect : Dialect)
    (columns : List Column) :
    dialect.readInsertedValues? (dialect.valuesText columns).toList =
      some (.ofColumns columns) := by
  unfold InsertedValues.ofColumns
  by_cases none : columns = []
  · simp [none, valuesText, readInsertedValues?, readListed?_defaultValues]
  · have several : 0 < columns.length := List.length_pos_iff.mpr none
    have numbered := @readItems_placeholder dialect columns.length several
    have named := @readItems_quoteName dialect columns none
    have between (text : List Char) :
        Text.afterWord? ") values (" (") VALUES (".toList ++ text) =
          some text :=
      Text.afterWord?_append rfl text
    have written : (dialect.valuesText columns).toList =
        ' ' :: '(' :: ((dialect.columnsText columns).toList ++
          (") VALUES (".toList ++
            ((dialect.placeholdersText columns.length).toList ++ [')']))) := by
      simp [valuesText, none]
    have listed : dialect.readListed? (dialect.valuesText columns).toList =
        some (.listed (columns.map fun column =>
          Text.splitOn (· == '.') column.name.toList)
          (List.range' 1 columns.length)) := by
      rw [readListed?, written, afterWord?_opening]
      simp only [Option.bind_eq_bind, Option.bind_some, named, between,
        numbered, if_true, positions_number?]
    rw [readInsertedValues?, listed, if_neg none]
    rfl

private theorem readIgnoring_words {word : String} {words : List Char}
    (ignores : dialect.ignoringWords? = some word)
    (same : words.map Char.toLower = word.toList) (rest : List Char) :
    dialect.readIgnoring (words ++ rest) = (true, rest) := by
  rw [readIgnoring, ignores, Option.bind_some, Text.afterWord?_append same]

private theorem readIgnoring_into (dialect : Dialect) (rest : List Char) :
    dialect.readIgnoring (" INTO ".toList ++ rest) =
      (false, " INTO ".toList ++ rest) := by
  unfold readIgnoring
  cases dialect with
  | sqlserver => rfl
  | mysql _ | sqlite =>
      rw [ignoringWords?, Option.bind_some,
        Text.afterWord?_eq_none (by decide) (by decide) rest]

/-- The words after INSERT in the verb. -/
private theorem exists_words (dialect : Dialect) (ignore : Bool) :
    ∃ words, (dialect.insertVerb ignore).toList = "INSERT".toList ++ words ∧
      ∀ rest, dialect.readIgnoring (words ++ (" INTO ".toList ++ rest)) =
        (ignore && dialect.insertIgnoring?.isSome,
          " INTO ".toList ++ rest) := by
  cases ignore with
  | false => exact ⟨[], (List.append_nil _).symm, dialect.readIgnoring_into⟩
  | true =>
      cases dialect with
      | mysql sequenceFunction =>
          exact ⟨" IGNORE".toList, by simp [insertVerb, insertIgnoring?],
            fun rest => readIgnoring_words rfl rfl _⟩
      | sqlserver =>
          exact ⟨[], (List.append_nil _).symm, sqlserver.readIgnoring_into⟩
      | sqlite =>
          exact ⟨" OR IGNORE".toList, by simp [insertVerb, insertIgnoring?],
            fun rest => readIgnoring_words rfl rfl _⟩

private theorem endsName_valuesText (dialect : Dialect)
    (columns : List Column) :
    dialect.EndsName (dialect.valuesText columns).toList := by
  have blank : ∃ rest, (dialect.valuesText columns).toList = ' ' :: rest := by
    unfold valuesText
    split
    · cases dialect <;> simp [defaultValues]
    · simp
  obtain ⟨rest, written⟩ := blank
  rw [written]
  exact endsName_cons (by simp)

theorem readInsert?_insertVerb (dialect : Dialect) (ignore : Bool)
    (table : String) (columns : List Column) :
    dialect.readInsert?
      ((dialect.insertVerb ignore).toList ++ (" INTO ".toList ++
        (dialect.quoteChars table.toList ++
          (dialect.valuesText columns).toList))) =
      some ⟨ignore && dialect.insertIgnoring?.isSome,
        Text.splitOn (· == '.') table.toList, .ofColumns columns⟩ := by
  obtain ⟨words, verb, ignoring⟩ := dialect.exists_words ignore
  have inserts (text : List Char) :
      Text.afterWord? "insert" ("INSERT".toList ++ text) = some text :=
    Text.afterWord?_append rfl text
  have into (text : List Char) :
      Text.afterWord? " into " (" INTO ".toList ++ text) = some text :=
    Text.afterWord?_append rfl text
  have named :=
    readName_quoteChars table.toList (dialect.endsName_valuesText columns)
  have values := dialect.readInsertedValues?_valuesText columns
  rw [verb, List.append_assoc]
  simp only [readInsert?, Option.bind_eq_bind, Option.bind_some, inserts,
    ignoring, into, named, values]

end Dialect

namespace Composer

variable {composer : Composer} {metadata : Table} {table : String}
  {record : Record} {ignore : Bool}

/-- A parameter is what the value that the record has for the
column is bound to. -/
def BindsColumn (composer : Composer) (record : Record) (column : Column)
    (param : Param) : Prop :=
  ∃ value, record.get? column.name = some value ∧
    composer.formats.bind value column = .ok param

theorem bindsColumn_of_mapM {params : List Param}
    (bound :
      (metadata.assignments record).mapM composer.assignmentParam =
        .ok params) :
    List.Forall₂ (composer.BindsColumn record)
      (metadata.presentColumns record) params := by
  rw [← Table.column_assignments, List.forall₂_map_left_iff]
  have given : ∀ assignment ∈ metadata.assignments record,
      record.get? assignment.column.name = some assignment.value :=
    fun _ => Table.get?_of_mem_assignments
  have each :=
    (List.forall₂_and_left _ _).mpr ⟨given, Outcome.mapM_eq_ok_iff.mp bound⟩
  exact each.imp fun assignment param ⟨value, binds⟩ =>
    ⟨assignment.value, value, binds⟩

/-- A server takes from an INSERT the columns that the record has. -/
theorem readInsert?_of_insert {statement : Statement}
    (composed : composer.insert metadata table record ignore =
      .ok statement) :
    composer.dialect.readInsert?
        (statement.executable composer.dialect).toList =
      some ⟨ignore && composer.dialect.insertIgnoring?.isSome,
        Text.splitOn (· == '.') table.toList,
        .ofColumns (metadata.presentColumns record)⟩ := by
  rw [insert_eq_map] at composed
  obtain ⟨params, bound, rfl⟩ := Outcome.map_eq_ok_iff.mp composed
  have read := composer.dialect.readInsert?_insertVerb ignore table
    (metadata.presentColumns record)
  rw [executable_insertOf (bindsColumn_of_mapM bound).length_eq]
  simpa [String.toList_append, quote, Dialect.quoteName] using read

/-- An INSERT is refused for the first value that does not bind; else a server
takes from it the columns that the record has, each with the parameter that its
value is bound to. -/
structure InsertsPresent (composer : Composer) (metadata : Table)
    (table : String) (record : Record) (ignore : Bool) : Prop where
  refused : ∀ fault,
    composer.insert metadata table record ignore = .error fault ↔
      composer.RefusesFirst metadata record fault
  written : (∀ fault, ¬ composer.RefusesFirst metadata record fault) →
    ∃ statement, composer.insert metadata table record ignore = .ok statement ∧
      composer.dialect.readInsert?
          (statement.executable composer.dialect).toList =
        some ⟨ignore && composer.dialect.insertIgnoring?.isSome,
          Text.splitOn (· == '.') table.toList,
          .ofColumns (metadata.presentColumns record)⟩ ∧
      List.Forall₂ (composer.BindsColumn record)
        (metadata.presentColumns record) statement.params

theorem insertsPresent (composer : Composer) (metadata : Table) (table : String)
    (record : Record) (ignore : Bool) :
    composer.InsertsPresent metadata table record ignore where
  refused fault := by
    rw [insert_eq_map, Outcome.map_eq_error_iff, mapM_assignments_eq_error_iff]
  written accepted := by
    cases bound :
        (metadata.assignments record).mapM composer.assignmentParam with
    | error fault =>
        exact absurd (mapM_assignments_eq_error_iff.mp bound) (accepted fault)
    | ok params =>
        have binds := bindsColumn_of_mapM bound
        have composed : composer.insert metadata table record ignore =
            .ok (composer.insertOf table ignore
              (metadata.presentColumns record) params) := by
          rw [insert_eq_map, bound]
          rfl
        refine ⟨_, composed, readInsert?_of_insert composed, ?_⟩
        rwa [params_insertOf binds.length_eq]

end Composer

end RecordSql
