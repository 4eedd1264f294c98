import RecordSql.Proofs.Formats.Rewriting
import RecordSql.Proofs.Predicate.Form
import RecordSql.Proofs.Statement.Literal

/-!
# Elements of lists

The elements of a list operand that is a text are bound one by one, in their
order.  For a column of dates or of datetimes they are bound as they are
written, while a single text that is compared with such a column is rewritten in
the column's format if it is a timestamp.  So both ways agree exactly on the
elements that rewriting would leave alone.
-/

namespace RecordSql

namespace Composer

variable {composer : Composer} {table : Option Table} {condition : Condition}
  {statement : Statement}

theorem params_paramList (params : List Param) :
    (paramList params).params = params := by
  simp [paramList_eq_join, Statement.params_join, List.flatMap_map]

/-- A condition has the parameters of what follows its name. -/
theorem params_of_condition
    (composed : composer.condition table condition = .ok statement) :
    ∃ comparison, composer.comparison
          (columnOf? table (lastSegment condition.field)) condition =
        .ok comparison ∧
      statement.params = comparison.params := by
  obtain ⟨comparison, compared, built⟩ := Outcome.bind_eq_ok_iff.mp composed
  cases built
  exact ⟨comparison, compared, by simp⟩

/-- Each element of a list is bound to the parameter at its place. -/
theorem params_of_elements {text : String}
    (lists : condition.operator ∈ [.inList, .notInList])
    (given : condition.operand = .string text)
    (composed : composer.condition table condition = .ok statement) :
    List.Forall₂ (fun element param =>
        composer.elementParam
          (columnOf? table (lastSegment condition.field)) element = .ok param)
      (listElements text) statement.params := by
  obtain ⟨comparison, compared, sameParams⟩ := params_of_condition composed
  obtain ⟨field, operator, operand, upper, logic⟩ := condition
  cases given
  have listed : ∃ params, composer.listParams
      (columnOf? table (lastSegment field)) operator (.string text) =
      .ok params ∧ comparison.params = params := by
    simp only [List.mem_cons, List.not_mem_nil, or_false] at lists
    rcases lists with rfl | rfl
    all_goals
      obtain ⟨params, bound, built⟩ := Outcome.bind_eq_ok_iff.mp compared
      cases built
      exact ⟨params, bound, by simp [params_paramList]⟩
  obtain ⟨params, bound, rfl⟩ := listed
  obtain ⟨elements, elementsOk, present⟩ := Outcome.bind_eq_ok_iff.mp bound
  rw [sameParams]
  split at present
  · cases present
  · cases present
    exact Outcome.mapM_eq_ok_iff.mp elementsOk

/-- A list is refused if it has no elements, or for an element. -/
theorem refused_of_elements {text : String}
    (lists : condition.operator ∈ [.inList, .notInList])
    (given : condition.operand = .string text) {fault : Fault}
    (refused : composer.condition table condition = .error fault) :
    (listElements text = [] ∧
        fault =
          .unsupportedOperand
            (condition.operator.token ++ " with an empty list")) ∨
      ∃ element ∈ listElements text,
        composer.elementParam
            (columnOf? table (lastSegment condition.field)) element =
          .error fault := by
  obtain ⟨field, operator, operand, upper, logic⟩ := condition
  cases given
  have listed : composer.listParams
      (columnOf? table (lastSegment field)) operator (.string text) =
      .error fault := by
    rcases Outcome.bind_eq_error_iff.mp refused with compared | ⟨_, _, built⟩
    · simp only [List.mem_cons, List.not_mem_nil, or_false] at lists
      rcases lists with rfl | rfl
      all_goals
        rcases Outcome.bind_eq_error_iff.mp compared with
          listRefused | ⟨_, _, built⟩
        · exact listRefused
        · cases built
    · cases built
  rcases Outcome.bind_eq_error_iff.mp listed with
    elementsRefused | ⟨params, bound, present⟩
  · exact .inr (Outcome.exists_of_mapM_eq_error elementsRefused)
  · split at present
    · next empty =>
        cases present
        have related := Outcome.mapM_eq_ok_iff.mp bound
        rw [List.isEmpty_iff.mp empty, List.forall₂_nil_right_iff] at related
        exact .inl ⟨related, rfl⟩
    · cases present

/-- A comparison with a single operand has one parameter. -/
theorem condition_equal {value : Value} {param : Param}
    (bound : composer.operand
        (columnOf? table (lastSegment condition.field)) .equal value =
      .ok param) :
    ∃ comparison, composer.condition table
        { condition with operator := .equal, operand := value } =
        .ok comparison ∧
      comparison.params = [param] := by
  refine ⟨_, Outcome.bind_eq_ok_iff.mpr
    ⟨_, Outcome.bind_eq_ok_iff.mpr ⟨param, bound, rfl⟩, rfl⟩, ?_⟩
  simp

variable {column : Column}

/-- The parameters of a list are those that its elements have when they are
compared with the field one at a time. -/
def ComparesAlike (composer : Composer) (table : Option Table)
    (condition : Condition) (elements : List String)
    (params : List Param) : Prop :=
  List.Forall₂ (fun element param => ∃ comparison,
      composer.condition table
            { condition with operator := .equal, operand := .string element } =
          .ok comparison ∧
        comparison.params = [param]) elements params

private theorem elementParam_temporal (temporal : column.kind.isTemporal = true)
    (element : String) :
    composer.elementParam (some column) element = .ok (.text element) := by
  have notNumeric : ¬ (column.kind = .integer ∨ column.kind = .double) := by
    rintro (integer | double)
    · rw [integer] at temporal
      cases temporal
    · rw [double] at temporal
      cases temporal
  simp [elementParam, notNumeric]

private theorem compares_text_iff
    (found : columnOf? table (lastSegment condition.field) = some column)
    (temporal : column.kind.isTemporal = true) (element : String) :
    (∃ comparison,
      composer.condition table
            { condition with operator := .equal, operand := .string element } =
          .ok comparison ∧
        comparison.params = [.text element]) ↔
      composer.formats.Settled column.kind element := by
  obtain ⟨bound, boundOk, settled⟩ :=
    @Formats.bind_string_temporal composer.formats column element temporal
  have operand : composer.operand
      (columnOf? table (lastSegment condition.field)) .equal (.string element) =
      .ok (.text bound) := by
    rw [found]
    simp [Composer.operand, temporal, boundOk]
  obtain ⟨comparison, compared, params⟩ := condition_equal operand
  rw [← settled]
  constructor
  · rintro ⟨other, otherCompared, otherParams⟩
    cases compared.symm.trans otherCompared
    simpa [params] using otherParams
  · rintro rfl
    exact ⟨comparison, compared, params⟩

/-- The elements of a list are bound to a temporal column as they are written,
and so as in comparisons exactly where no element is a timestamp that the column
writes in another way. -/
theorem comparesAlike_iff {text : String}
    (found : columnOf? table (lastSegment condition.field) = some column)
    (temporal : column.kind.isTemporal = true)
    (lists : condition.operator ∈ [.inList, .notInList])
    (given : condition.operand = .string text)
    (composed : composer.condition table condition = .ok statement) :
    statement.params = (listElements text).map .text ∧
      (composer.ComparesAlike table condition
          (listElements text) statement.params ↔
        ∀ element ∈ listElements text,
          composer.formats.Settled column.kind element) := by
  have bound := params_of_elements lists given composed
  rw [found] at bound
  simp only [elementParam_temporal temporal, Except.ok.injEq] at bound
  have asWritten : statement.params = (listElements text).map .text :=
    (List.forall₂_eq_eq_eq ▸ List.forall₂_map_left_iff.mpr bound).symm
  refine ⟨asWritten, ?_⟩
  rw [asWritten, ComparesAlike, List.forall₂_map_right_iff, List.forall₂_same]
  exact forall₂_congr fun element _ => compares_text_iff found temporal element

/-- A birthday in the format of the column, and a text that is no timestamp. -/
theorem comparesAlike_iff_birthdays :
    let composer : Composer := ⟨.sqlite, .ofTexts "%d/%m/%Y" "%d/%m/%Y %H:%M"⟩
    let birthday : Column := .ofDeclared ⟨"birthday", "date", true, false, none⟩
    let table : Table := ⟨"people", [birthday]⟩
    let condition : Condition :=
      .of "people.birthday" .notInList (.string " 01/03/2024,, soon")
    columnOf? (some table) (lastSegment condition.field) = some birthday ∧
      birthday.kind.isTemporal = true ∧
      composer.condition (some table) condition =
        .ok (.ofPieces [.text "people.birthday NOT IN (",
          .param (.text "01/03/2024"), .text ", ",
          .param (.text "soon"), .text ")"]) ∧
      composer.ComparesAlike (some table) condition ["01/03/2024", "soon"]
        [.text "01/03/2024", .text "soon"] := by
  intro composer birthday table condition
  have found : columnOf? (some table) (lastSegment condition.field) =
      some birthday := by
    decide +kernel
  have temporal : birthday.kind.isTemporal = true := by decide +kernel
  have composed : composer.condition (some table) condition =
      .ok (.ofPieces [.text "people.birthday NOT IN (",
        .param (.text "01/03/2024"), .text ", ",
        .param (.text "soon"), .text ")"]) := by decide +kernel
  have elements : listElements " 01/03/2024,, soon" =
      ["01/03/2024", "soon"] := by decide +kernel
  have alike :=
    (comparesAlike_iff found temporal
      (by simp [condition, Condition.of]) rfl composed).2
  rw [elements] at alike
  refine ⟨found, temporal, composed, alike.mpr ?_⟩
  simp only [List.forall_mem_cons]
  refine ⟨?_, ?_, by simp⟩
  · have read : composer.formats.read? "01/03/2024" =
        some (.atMidnight ⟨2024, 3, 1, by decide⟩) := by decide +kernel
    rintro datetime isTimestamp
    cases read.symm.trans isTimestamp
    decide +kernel
  · have unread : composer.formats.read? "soon" = none := by decide +kernel
    rintro datetime isTimestamp
    cases unread.symm.trans isTimestamp

/-- A date in international notation is rewritten in a comparison,
and not in a list. -/
theorem not_comparesAlike_isoDate :
    let composer : Composer := ⟨.sqlite, .ofTexts "%d/%m/%Y" "%d/%m/%Y %H:%M"⟩
    let birthday : Column := .ofDeclared ⟨"birthday", "date", true, false, none⟩
    let table : Table := ⟨"people", [birthday]⟩
    let condition : Condition := .of "birthday" .inList (.string "2024-03-01")
    columnOf? (some table) (lastSegment condition.field) = some birthday ∧
      birthday.kind.isTemporal = true ∧
      composer.condition (some table) condition =
        .ok (.ofPieces
          [.text "birthday IN (", .param (.text "2024-03-01"), .text ")"]) ∧
      ¬ composer.ComparesAlike
        (some table) condition ["2024-03-01"] [.text "2024-03-01"] := by
  intro composer birthday table condition
  refine ⟨by decide +kernel, by decide +kernel, by decide +kernel, ?_⟩
  have compared : composer.condition (some table)
      { condition with operator := .equal, operand := .string "2024-03-01" } =
        .ok (.ofPieces [.text "birthday = ", .param (.text "01/03/2024")]) := by
    decide +kernel
  rintro (_ | ⟨⟨comparison, otherCompared, params⟩, _⟩)
  cases compared.symm.trans otherCompared
  revert params
  decide

end Composer

end RecordSql
