import RecordSql.Fault
import RecordSql.Dialect
import RecordSql.Value

/-!
# Filters

A filter is a list of named groups of conditions with an order, a grouping and a
window of rows. Groups are alternatives unless a group map combines them.
-/

namespace RecordSql

/-- How a condition compares its field. -/
inductive Operator where
  | equal
  | notEqual
  | greater
  | less
  | greaterOrEqual
  | lessOrEqual
  | contains
  | startsWith
  | endsWith
  | inList
  | notInList
  | between
  | notBetween
  | regexp
  | isNull
  | notNull
  deriving DecidableEq

namespace Operator

def all : List Operator :=
  [equal, notEqual, greater, less, greaterOrEqual, lessOrEqual, contains,
    startsWith, endsWith, inList, notInList, between, notBetween, regexp,
    isNull, notNull]

def token : Operator → String
  | equal => "="
  | notEqual => "<>"
  | greater => ">"
  | less => "<"
  | greaterOrEqual => ">="
  | lessOrEqual => "<="
  | contains => "%LIKE%"
  | startsWith => "LIKE%"
  | endsWith => "%LIKE"
  | inList => "IN"
  | notInList => "NI"
  | between => "BT"
  | notBetween => "NBT"
  | regexp => "RGXP"
  | isNull => "NULL"
  | notNull => "NNULL"

def operandCount : Operator → Nat
  | isNull | notNull => 0
  | between | notBetween => 2
  | _ => 1

def isComparison : Operator → Bool
  | equal | notEqual | greater | less | greaterOrEqual | lessOrEqual => true
  | _ => false

def isLike : Operator → Bool
  | contains | startsWith | endsWith => true
  | _ => false

/-- The operator of a token as it is written; inequality has a second token. -/
def ofToken? (text : String) : Option Operator :=
  if text = "!=" then some notEqual
  else all.find? fun operator => operator.token == text

/-- The operator of a token with blanks around it and letters of any case. -/
def parse (text : String) : Except Fault Operator :=
  let raised :=
    String.ofList (Text.upperAsciiChars (Text.trimChars text.toList))
  match ofToken? raised with
  | some operator => .ok operator
  | none => .error (.unsupportedOperand ("unknown operator '" ++ raised ++ "'"))

end Operator

/-- How a condition is joined to the one before it. -/
inductive Logic where
  | and
  | or
  deriving DecidableEq

def Logic.keyword : Logic → String
  | and => "AND"
  | or => "OR"

/-- The direction of an order. -/
inductive Direction where
  | ascending
  | descending
  deriving DecidableEq

def Direction.keyword : Direction → String
  | ascending => "ASC"
  | descending => "DESC"

/-- A comparison of a field with up to two operands. The logic of a group's
first condition is not used. -/
structure Condition where
  field : String
  operator : Operator
  operand : Value
  upper : Option Value
  logic : Logic
  deriving DecidableEq

namespace Condition

/-- A condition with one operand, joined by AND. -/
def of (field : String) (operator : Operator) (operand : Value) : Condition :=
  ⟨field, operator, operand, none, .and⟩

def between (field : String) (lower upper : Value) : Condition :=
  ⟨field, .between, lower, some upper, .and⟩

def notBetween (field : String) (lower upper : Value) : Condition :=
  ⟨field, .notBetween, lower, some upper, .and⟩

def isNull (field : String) : Condition := of field .isNull .null

def notNull (field : String) : Condition := of field .notNull .null

def withLogic (condition : Condition) (logic : Logic) : Condition :=
  { condition with logic := logic }

end Condition

structure ConditionGroup where
  name : String
  conditions : List Condition
  deriving DecidableEq

/-- An entry of an order. The field is written as it is, so it may
be an expression. -/
structure SortKey where
  field : String
  direction : Direction
  deriving DecidableEq

/-- Groups of conditions with order, grouping and window. -/
structure Filter where
  groups : List ConditionGroup
  /-- A text over group names between colons that combines the groups. -/
  groupMap : Option String
  sort : List SortKey
  groupBy : List String
  /-- At most so many rows; all of them when it is not positive. -/
  limit : Int64
  offset : Int64
  deriving DecidableEq

namespace Filter

def empty : Filter := ⟨[], none, [], [], 0, 0⟩

def defaultGroup : String := "default"

/-- Adds a condition at the end of the first group of a name, or
in a new group. -/
def addToGroups (name : String) (condition : Condition) :
    List ConditionGroup → List ConditionGroup
  | [] => [⟨name, [condition]⟩]
  | group :: groups =>
    if group.name = name then
      { group with conditions := group.conditions ++ [condition] } :: groups
    else group :: addToGroups name condition groups

def addTo (filter : Filter) (name : String) (condition : Condition) : Filter :=
  { filter with groups := addToGroups name condition filter.groups }

def add (filter : Filter) (condition : Condition) : Filter :=
  filter.addTo defaultGroup condition

/-- Adds a condition with one operand to the default group. -/
def whenever (filter : Filter) (field : String) (operator : Operator)
    (operand : Value) : Filter :=
  filter.add (.of field operator operand)

def withGroupMap (filter : Filter) (template : String) : Filter :=
  { filter with groupMap := some template }

def sortBy (filter : Filter) (field : String)
    (direction : Direction) : Filter :=
  { filter with sort := filter.sort ++ [⟨field, direction⟩] }

def groupedBy (filter : Filter) (field : String) : Filter :=
  { filter with groupBy := filter.groupBy ++ [field] }

def withLimit (filter : Filter) (limit : Int64) : Filter :=
  { filter with limit := limit }

def withOffset (filter : Filter) (offset : Int64) : Filter :=
  { filter with offset := offset }

/-- The window of rows; none when the limit is not positive. -/
def page? (filter : Filter) : Option Page :=
  if filter.limit.toInt ≤ 0 then none
  else some ⟨filter.limit.toInt.toNat, filter.offset.toInt.toNat⟩

def hasConditions (filter : Filter) : Bool :=
  filter.groups.any fun group => !group.conditions.isEmpty

def group? (filter : Filter) (name : String) : Option ConditionGroup :=
  filter.groups.find? fun group => group.name == name

end Filter

end RecordSql
