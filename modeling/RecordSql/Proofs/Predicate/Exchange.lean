import RecordSql.Predicate
import RecordSql.Proofs.Filter.Json
import RecordSql.Proofs.Formats.Exchange
import RecordSql.Proofs.Outcome
import RecordSql.Proofs.Statement.Composition

/-!
# Conditions through JSON

A date or a datetime is written as a string in JSON and read back as one.  A
comparison with a column of dates or of datetimes has the same meaning before
and after: with the formats that settings have by default, both conditions
become one statement.
-/

namespace RecordSql

def Value.IsTemporal : Value → Prop
  | date _ | dateTime _ => True
  | _ => False

theorem Value.isPlain_exchanged {value : Value} (temporal : value.IsTemporal) :
    value.exchanged.IsPlain ∧ value.exchanged ≠ .null := by
  cases value with
  | date | dateTime => exact ⟨trivial, nofun⟩
  | _ => exact temporal.elim

namespace Condition

/-- The condition that is read where this one was written as JSON. -/
def exchanged (condition : Condition) : Condition :=
  { condition with
    operand := condition.operand.exchanged
    upper := condition.upper.map Value.exchanged }

/-- A comparison with dates or datetimes, as many as the operator takes. -/
structure ComparesTimes (condition : Condition) : Prop where
  compares : condition.operator.isComparison = true ∨
    condition.operator ∈ [.between, .notBetween]
  operand : condition.operand.IsTemporal
  upper : ∀ upper ∈ condition.upper, upper.IsTemporal
  bounded : condition.operator ∈ [.between, .notBetween] →
    condition.upper.isSome

theorem toJson_exchanged (condition : Condition) :
    condition.exchanged.toJson = condition.toJson := by
  obtain ⟨field, operator, operand, upper, logic⟩ := condition
  cases upper <;> simp [exchanged, toJson, Value.toJson_exchanged]

theorem ofText?_exchanged {condition : Condition}
    (times : condition.ComparesTimes) :
    (Json.ofText? condition.toJson.text).bind (ofJsonWith? Value.ofJson?) =
      some condition.exchanged := by
  have plain : condition.exchanged.IsPlain := by
    refine ⟨(Value.isPlain_exchanged times.operand).1, ?_⟩
    intro upper member
    obtain ⟨native, isUpper, rfl⟩ := Option.map_eq_some_iff.mp member
    exact Value.isPlain_exchanged (times.upper native isUpper)
  rw [← toJson_exchanged, Json.ofText?_text (isExact_toJson plain),
    Option.bind_some, ofJson?_toJson plain]

end Condition

namespace Composer

variable {dialect : Dialect} {column : Column} {operator : Operator}

theorem operand_exchanged (temporal : column.kind.isTemporal = true)
    (value : Value) :
    operand ⟨dialect, ({} : Settings).formats⟩
        (some column) operator value.exchanged =
      operand ⟨dialect, ({} : Settings).formats⟩
        (some column) operator value := by
  have bound := Formats.bind_exchanged temporal value
  cases value with
  | date | dateTime =>
      simp only [Value.exchanged] at bound
      simp only [operand, Value.exchanged, temporal, if_true, bound]
  | _ => rfl

/-- Every date and datetime can be bound to a temporal column, for every
operator alike. -/
theorem exists_operand_of_temporal (dialect : Dialect)
    (temporal : column.kind.isTemporal = true) {value : Value}
    (isTemporal : value.IsTemporal) :
    ∃ param, ∀ operator,
      operand ⟨dialect, ({} : Settings).formats⟩ (some column) operator value =
        .ok param := by
  obtain ⟨text, isText⟩ : ∃ text, value.exchanged = .string text := by
    cases value with
    | date | dateTime => exact ⟨_, rfl⟩
    | _ => exact isTemporal.elim
  obtain ⟨written, bound, _⟩ :=
    @Formats.bind_string_temporal ({} : Settings).formats column text temporal
  refine ⟨.text written, fun operator => ?_⟩
  rw [← operand_exchanged temporal, isText]
  simp only [operand, temporal, if_true, bound]

theorem comparison_exchanged (temporal : column.kind.isTemporal = true)
    {condition : Condition} (compares : condition.operator.isComparison = true ∨
      condition.operator ∈ [.between, .notBetween]) :
    comparison ⟨dialect, ({} : Settings).formats⟩
        (some column) condition.exchanged =
      comparison ⟨dialect, ({} : Settings).formats⟩
        (some column) condition := by
  obtain ⟨field, operator, operand, upper, logic⟩ := condition
  have same := fun operator =>
    @operand_exchanged dialect column operator temporal
  cases operator <;> simp [Operator.isComparison] at compares
  case between | notBetween =>
    cases upper <;> simp [comparison, Condition.exchanged, same]
  all_goals simp only [comparison, Condition.exchanged, same]

theorem exists_comparison (temporal : column.kind.isTemporal = true)
    {condition : Condition} (times : condition.ComparesTimes) :
    ∃ statement,
      comparison ⟨dialect, ({} : Settings).formats⟩ (some column) condition =
        .ok statement := by
  obtain ⟨field, operator, lower, upper, logic⟩ := condition
  obtain ⟨compares, isTemporal, upperTemporal, bounded⟩ := times
  obtain ⟨param, bound⟩ :=
    exists_operand_of_temporal dialect temporal isTemporal
  dsimp only at bound
  cases operator <;> simp [Operator.isComparison] at compares
  case between | notBetween =>
    cases upper with
    | none => cases bounded (by simp)
    | some upper =>
        obtain ⟨upperParam, upperBound⟩ :=
          exists_operand_of_temporal dialect temporal (upperTemporal upper rfl)
        exact ⟨_, by simp only [comparison, bound, upperBound]; rfl⟩
  all_goals exact ⟨_, by simp only [comparison, bound]; rfl⟩

/-- A comparison of a temporal column with dates and datetimes becomes the
statement that it becomes when it has been written as JSON and read back. -/
theorem sameStatement_exchanged (dialect : Dialect) {table : Option Table}
    {condition : Condition}
    (found : columnOf? table (lastSegment condition.field) = some column)
    (temporal : column.kind.isTemporal = true)
    (times : condition.ComparesTimes) :
    let composer : Composer := ⟨dialect, ({} : Settings).formats⟩
    (Json.ofText? condition.toJson.text).bind
          (Condition.ofJsonWith? Value.ofJson?) =
        some condition.exchanged ∧
      ∃ statement, composer.condition table condition = .ok statement ∧
        composer.condition table condition.exchanged = .ok statement := by
  intro composer
  obtain ⟨compared, isCompared⟩ :=
    @exists_comparison dialect column temporal condition times
  have composed : composer.condition table condition =
      .ok (Statement.ofSql (composer.quote condition.field) ++ compared) := by
    rw [Composer.condition, found, isCompared]
    rfl
  have exchangedComposed : composer.condition table condition.exchanged =
      .ok (Statement.ofSql (composer.quote condition.field) ++ compared) := by
    have sameField : condition.exchanged.field = condition.field := rfl
    rw [Composer.condition, sameField, found,
      comparison_exchanged temporal times.compares, isCompared]
    rfl
  exact ⟨Condition.ofText?_exchanged times, _, composed, exchangedComposed⟩

/-- From the first day of the calendar to its last leap second, in a
column of datetimes. -/
theorem sameStatement_exchanged_calendar :
    let composer : Composer := ⟨.sqlserver, ({} : Settings).formats⟩
    let moment : Column :=
      .ofDeclared ⟨"moment", "DATETIME(6)", true, false, none⟩
    let table : Table := ⟨"events", [moment]⟩
    let first : Date := ⟨-262143, 1, 1, by decide⟩
    let last : DateTime :=
      ⟨⟨262142, 12, 31, by decide⟩, 23, 59, 59, 1999999990, by decide⟩
    let native :=
      Condition.notBetween "events.moment" (.date first) (.dateTime last)
    let exchanged := Condition.notBetween "events.moment"
      (.string "-262143-01-01") (.string "+262142-12-31T23:59:60.999999990")
    let statement : Statement :=
      .ofPieces [.text "[events].[moment] NOT BETWEEN ",
        .param (.text "-262143-01-01 00:00:00"), .text " AND ",
        .param (.text "+262142-12-31 23:59:60")]
    columnOf? (some table) (lastSegment native.field) = some moment ∧
      moment.kind.isTemporal = true ∧ native.ComparesTimes ∧
      (Json.ofText? native.toJson.text).bind
          (Condition.ofJsonWith? Value.ofJson?) =
        some exchanged ∧
      composer.condition (some table) native = .ok statement ∧
      composer.condition (some table) exchanged = .ok statement := by
  intro composer moment table first last native exchanged statement
  have found : columnOf? (some table) (lastSegment native.field) =
      some moment := by
    decide +kernel
  have temporal : moment.kind.isTemporal = true := by decide +kernel
  have times : native.ComparesTimes := by
    refine ⟨.inr (by simp [native, Condition.notBetween]), trivial, ?_,
      fun _ => rfl⟩
    rintro upper ⟨⟩
    exact trivial
  have same : native.exchanged = exchanged := by decide +kernel
  have composed : composer.condition (some table) native = .ok statement := by
    decide +kernel
  obtain ⟨read, other, otherComposed, exchangedComposed⟩ :=
    sameStatement_exchanged .sqlserver found temporal times
  cases composed.symm.trans otherComposed
  rw [same] at read exchangedComposed
  exact ⟨found, temporal, times, read, composed, exchangedComposed⟩

end Composer

end RecordSql
