import RecordSql.Filter
import RecordSql.Value.Json

/-!
# Filters in JSON

The form in which filters are stored and sent. An absent upper operand and an
absent group map are left out; a reader takes defaults for everything but names,
fields and operators.
-/

namespace RecordSql

namespace Logic

def ofName? (name : String) : Option Logic :=
  if name ∈ ["AND", "and"] then some and
  else if name ∈ ["OR", "or"] then some or
  else none

end Logic

namespace Direction

def ofName? (name : String) : Option Direction :=
  if name ∈ ["ASC", "asc"] then some ascending
  else if name ∈ ["DESC", "desc"] then some descending
  else none

end Direction

namespace Condition

def toJson (condition : Condition) : Json :=
  .object ( [("field", .string condition.field),
      ("operator", .string condition.operator.token),
      ("value1", condition.operand.toJson)] ++
    (condition.upper.map fun upper => ("value2", upper.toJson)).toList ++
    [("logic", .string condition.logic.keyword)])

/-- The condition of a JSON form whose operands are read by `read`. -/
def ofJsonWith? (read : Json → Option Value) (json : Json) :
    Option Condition := do
  match ← json.fields? ["field", "operator", "value1", "value2", "logic"] with
  | [field, operator, operand, upper, logic] =>
    let field ← Json.required? Json.string? field
    let operator ←
      Json.required? (fun json => json.name?.bind Operator.ofToken?) operator
    let operand ← Json.defaulted? .null read operand
    let upper ← Json.defaulted? none (Json.nullable? read) upper
    let logic ←
      Json.defaulted? .and (fun json => json.name?.bind Logic.ofName?) logic
    pure ⟨field, operator, operand, upper, logic⟩
  | _ => none

end Condition

namespace ConditionGroup

def toJson (group : ConditionGroup) : Json :=
  .object [("name", .string group.name),
    ("conditions", .array (group.conditions.map Condition.toJson))]

def ofJsonWith? (read : Json → Option Value) (json : Json) :
    Option ConditionGroup := do
  match ← json.fields? ["name", "conditions"] with
  | [name, conditions] =>
    let name ← Json.required? Json.string? name
    let conditions ←
      Json.defaulted? [] (Json.list? (Condition.ofJsonWith? read)) conditions
    pure ⟨name, conditions⟩
  | _ => none

end ConditionGroup

namespace SortKey

def toJson (key : SortKey) : Json :=
  .object [("field", .string key.field),
    ("direction", .string key.direction.keyword)]

def ofJson? (json : Json) : Option SortKey := do
  match ← json.fields? ["field", "direction"] with
  | [field, direction] =>
    let field ← Json.required? Json.string? field
    let direction ← Json.defaulted? .ascending
      (fun json => json.name?.bind Direction.ofName?) direction
    pure ⟨field, direction⟩
  | _ => none

end SortKey

namespace Filter

def toJson (filter : Filter) : Json :=
  .object ( [("groups", .array (filter.groups.map ConditionGroup.toJson))] ++
    (filter.groupMap.map fun template =>
      ("group_map", Json.string template)).toList ++
    [("sort", .array (filter.sort.map SortKey.toJson)),
      ("group_by", .array (filter.groupBy.map Json.string)),
      ("limit", .integer filter.limit.toInt),
      ("offset", .integer filter.offset.toInt)])

/-- The filter of a JSON form whose operands are read by `read`. -/
def ofJsonWith? (read : Json → Option Value) (json : Json) : Option Filter := do
  match ← json.fields?
      ["groups", "group_map", "sort", "group_by", "limit", "offset"] with
  | [groups, groupMap, sort, groupBy, limit, offset] =>
    let groups ←
      Json.defaulted? [] (Json.list? (ConditionGroup.ofJsonWith? read)) groups
    let groupMap ← Json.defaulted? none (Json.nullable? Json.string?) groupMap
    let sort ← Json.defaulted? [] (Json.list? SortKey.ofJson?) sort
    let groupBy ← Json.defaulted? [] (Json.list? Json.string?) groupBy
    let limit ← Json.defaulted? 0 Json.int64? limit
    let offset ← Json.defaulted? 0 Json.int64? offset
    pure ⟨groups, groupMap, sort, groupBy, limit, offset⟩
  | _ => none

def ofJson? (json : Json) : Option Filter :=
  ofJsonWith? Value.ofJson? json

end Filter

end RecordSql
