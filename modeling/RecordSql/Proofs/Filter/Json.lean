import RecordSql.Filter.Json
import RecordSql.Proofs.Value.Json

/-!
# Filters through JSON

A filter is read back from its JSON text, with all that it has, if its operands
are read back from theirs.
-/

namespace RecordSql

theorem Operator.ofToken?_token (operator : Operator) :
    ofToken? operator.token = some operator := by
  cases operator <;> decide

theorem Logic.ofName?_keyword (logic : Logic) :
    ofName? logic.keyword = some logic := by
  cases logic <;> decide

theorem Direction.ofName?_keyword (direction : Direction) :
    ofName? direction.keyword = some direction := by
  cases direction <;> decide

namespace Condition

/-- Operands whose kinds are told from their JSON forms.  A null upper operand
is read back as an absent one. -/
structure IsPlain (condition : Condition) : Prop where
  operand : condition.operand.IsPlain
  upper : ∀ upper ∈ condition.upper, upper.IsPlain ∧ upper ≠ .null

variable {condition : Condition}

theorem nullable?_toJson {value : Value} (plain : value.IsPlain)
    (present : value ≠ .null) :
    Json.nullable? Value.ofJson? value.toJson = some (some value) := by
  have notNull := Value.toJson_ne_null plain present
  unfold Json.nullable?
  split
  · next isNull => exact absurd isNull notNull
  · rw [Value.ofJson?_toJson plain]
    rfl

theorem ofJson?_toJson (plain : condition.IsPlain) :
    ofJsonWith? Value.ofJson? condition.toJson = some condition := by
  obtain ⟨field, operator, operand, upper, logic⟩ := condition
  have operandRead := Value.ofJson?_toJson plain.operand
  cases upper with
  | none =>
      simp [ofJsonWith?, toJson, Json.fields?, Json.valuesOf, Json.required?,
        Json.defaulted?, Json.string?, Json.name?, Operator.ofToken?_token,
        Logic.ofName?_keyword, operandRead]
  | some upper =>
      obtain ⟨upperPlain, present⟩ := plain.upper upper rfl
      have upperRead := nullable?_toJson upperPlain present
      simp [ofJsonWith?, toJson, Json.fields?, Json.valuesOf, Json.required?,
        Json.defaulted?, Json.string?, Json.name?, Operator.ofToken?_token,
        Logic.ofName?_keyword, operandRead, upperRead]

theorem isExact_toJson (plain : condition.IsPlain) :
    condition.toJson.IsExact := by
  obtain ⟨field, operator, operand, upper, logic⟩ := condition
  have operandExact := Value.isExact_toJson plain.operand
  cases upper with
  | none => simp [toJson, Json.IsExact, Json.HaveExactValues, operandExact]
  | some upper =>
      have upperExact := Value.isExact_toJson (plain.upper upper rfl).1
      simp [toJson, Json.IsExact, Json.HaveExactValues,
        operandExact, upperExact]

end Condition

namespace ConditionGroup

def IsPlain (group : ConditionGroup) : Prop :=
  ∀ condition ∈ group.conditions, condition.IsPlain

variable {group : ConditionGroup}

theorem ofJson?_toJson (plain : group.IsPlain) :
    ofJsonWith? Value.ofJson? group.toJson = some group := by
  obtain ⟨name, conditions⟩ := group
  have conditionsRead : (conditions.map Condition.toJson).mapM
      (Condition.ofJsonWith? Value.ofJson?) = some conditions :=
    Json.mapM_map fun condition member =>
      Condition.ofJson?_toJson (plain condition member)
  simp [ofJsonWith?, toJson, Json.fields?, Json.valuesOf, Json.required?,
    Json.defaulted?, Json.string?, Json.list?, conditionsRead]

theorem isExact_toJson (plain : group.IsPlain) : group.toJson.IsExact := by
  have conditionsExact :
      (Json.array (group.conditions.map Condition.toJson)).IsExact :=
    Json.isExact_array fun condition member =>
      Condition.isExact_toJson (plain condition member)
  simp only [toJson, Json.IsExact, Json.HaveExactValues, true_and, and_true]
  exact conditionsExact

end ConditionGroup

namespace SortKey

theorem ofJson?_toJson (key : SortKey) : ofJson? key.toJson = some key := by
  simp [ofJson?, toJson, Json.fields?, Json.valuesOf, Json.required?,
    Json.defaulted?, Json.string?, Json.name?, Direction.ofName?_keyword]

theorem isExact_toJson (key : SortKey) : key.toJson.IsExact := by
  simp [toJson, Json.IsExact, Json.HaveExactValues]

end SortKey

namespace Filter

/-- A filter whose operands are read back from their JSON forms. -/
def IsPlain (filter : Filter) : Prop := ∀ group ∈ filter.groups, group.IsPlain

variable {filter : Filter}

theorem ofJson?_toJson (plain : filter.IsPlain) :
    ofJson? filter.toJson = some filter := by
  obtain ⟨groups, groupMap, sort, groupBy, limit, offset⟩ := filter
  have groupsRead : (groups.map ConditionGroup.toJson).mapM
      (ConditionGroup.ofJsonWith? Value.ofJson?) = some groups :=
    Json.mapM_map fun group member =>
      ConditionGroup.ofJson?_toJson (plain group member)
  have sortRead : (sort.map SortKey.toJson).mapM SortKey.ofJson? = some sort :=
    Json.mapM_map fun key _ => key.ofJson?_toJson
  have groupByRead : (groupBy.map Json.string).mapM Json.string? =
      some groupBy :=
    Json.mapM_map fun _ _ => rfl
  cases groupMap with
  | none =>
      simp [ofJson?, ofJsonWith?, toJson, Json.fields?, Json.valuesOf,
        Json.defaulted?, Json.list?, Json.int64?_toInt, groupsRead,
        sortRead, groupByRead]
  | some template =>
      simp [ofJson?, ofJsonWith?, toJson, Json.fields?, Json.valuesOf,
        Json.defaulted?, Json.list?, Json.nullable?, Json.string?,
        Json.int64?_toInt, groupsRead, sortRead, groupByRead]

theorem isExact_toJson (plain : filter.IsPlain) : filter.toJson.IsExact := by
  obtain ⟨groups, groupMap, sort, groupBy, limit, offset⟩ := filter
  have groupsExact : (Json.array (groups.map ConditionGroup.toJson)).IsExact :=
    Json.isExact_array fun group member =>
      ConditionGroup.isExact_toJson (plain group member)
  have sortExact : (Json.array (sort.map SortKey.toJson)).IsExact :=
    Json.isExact_array fun key _ => key.isExact_toJson
  have groupByExact : (Json.array (groupBy.map Json.string)).IsExact :=
    Json.isExact_array fun _ _ => trivial
  have numberExact : ∀ number : Int64, (Json.integer number.toInt).IsExact :=
    Json.fits_toInt
  have templateExact : ∀ template, (Json.string template).IsExact := fun _ =>
    trivial
  rw [toJson, Json.IsExact, Json.haveExactValues_iff]
  cases groupMap with
  | none => simp [groupsExact, sortExact, groupByExact, numberExact]
  | some template =>
      simp [groupsExact, sortExact, groupByExact, numberExact, templateExact]

end Filter

/-- Filters and records are read back from their JSON texts, whatever names and
texts they have, if their values are of kinds that the texts tell apart. -/
theorem Json.ofText?_toJson :
    (∀ filter : Filter, filter.IsPlain →
      (ofText? filter.toJson.text).bind Filter.ofJson? = some filter) ∧
        ∀ record : Record, record.IsPlain →
          (ofText? record.toJson.text).bind Record.ofJson? = some record := by
  constructor
  · intro filter plain
    rw [ofText?_text (Filter.isExact_toJson plain), Option.bind_some,
      Filter.ofJson?_toJson plain]
  · intro record plain
    rw [ofText?_text (Record.isExact_toJson plain), Option.bind_some,
      Record.ofJson?_toJson plain]

/-- Quotes, control characters, bytes and the limits of whole numbers in a
filter and a record. -/
theorem Json.ofText?_toJson_escapes :
    let between : Condition :=
      ⟨"a\"b", .between, .integer (-9223372036854775808),
        some (.binary [0, 255]), .or⟩
    let equal : Condition :=
      ⟨"\x00\u00e9", .equal, .string "\\u\x1f\n", none, .and⟩
    let filter : Filter :=
      ⟨[⟨"g", [between, equal]⟩, ⟨"", []⟩], some ":g:", [⟨"x", .descending⟩],
        ["y"], -1, 5⟩
    let record :=
      Record.ofList [("b", .string "\x08/"), ("\t", .null), ("a", .binary [])]
    (ofText? filter.toJson.text).bind Filter.ofJson? = some filter ∧
      record.toJson.text = "\x7b\"\\t\":null,\"a\":[],\"b\":\"\\b/\"\x7d" ∧
        (ofText? record.toJson.text).bind Record.ofJson? = some record := by
  intro between equal filter record
  have plainFilter : filter.IsPlain := by
    have plainBetween : between.IsPlain := by
      refine ⟨trivial, ?_⟩
      rintro upper ⟨⟩
      exact ⟨trivial, nofun⟩
    have plainEqual : equal.IsPlain := ⟨trivial, by simp [equal]⟩
    simp [filter, Filter.IsPlain, ConditionGroup.IsPlain,
      plainBetween, plainEqual]
  have plainRecord : record.IsPlain := by
    have fields : record.fields =
        [("\t", .null), ("a", .binary []), ("b", .string "\x08/")] := by
      decide +kernel
    simp [Record.IsPlain, fields, Value.IsPlain]
  exact ⟨Json.ofText?_toJson.1 filter plainFilter, by decide +kernel,
    Json.ofText?_toJson.2 record plainRecord⟩

end RecordSql
