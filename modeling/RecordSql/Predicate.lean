import RecordSql.Binding
import RecordSql.Filter
import RecordSql.Record

/-!
# Predicates

Keys, conditions, groups and filters as SQL with bound operands. Names are
quoted by the dialect, operands are bound by the column where it is known, and
no operand ever becomes part of the text.
-/

namespace RecordSql

inductive Criteria where
  | all
  | keys (keys : Keys)
  | filter (filter : Filter)
  deriving DecidableEq

def Criteria.page? : Criteria → Option Page
  | .filter restriction => restriction.page?
  | _ => none

/-- What statements are composed with: a dialect and the temporal formats. -/
structure Composer where
  dialect : Dialect
  formats : Formats
  deriving DecidableEq

def lastSegment (name : String) : String :=
  (Text.pieces '.' name).getLastD ""

def columnOf? (table : Option Table) (name : String) : Option Column :=
  table.bind fun table => table.column? name

namespace Composer

def quote (composer : Composer) (name : String) : String :=
  composer.dialect.quoteName name

/-- Binds a key by its column where it is known, else by its own kind. -/
def keyParam (composer : Composer) (table : Option Table) (name : String)
    (value : Value) : Except Fault Param :=
  match columnOf? table name with
  | some column => composer.formats.bind value column
  | none => composer.formats.bindOperand value

/-- The conjunct of one key; a null key is tested, not compared. -/
def keyClause (composer : Composer) (table : Option Table) (name : String)
    (value : Value) : Except Fault Statement :=
  let quoted := Statement.ofSql (composer.quote name)
  if value.isNull then .ok (quoted.sql " IS NULL")
  else do
    let bound ← composer.keyParam table name value
    pure ((quoted.sql " = ").param bound)

/-- The conjunction of keys in their order. -/
def keys (composer : Composer) (table : Option Table) (keys : Keys) :
    Except Fault Statement :=
  if keys.isEmpty then .error .emptyKeySet
  else if keys.entries.any fun entry => Text.isAllBlank entry.1 then
    .error .emptyKeyName
  else do
    let clauses ← keys.entries.mapM fun entry =>
      composer.keyClause table entry.1 entry.2
    pure (Statement.join " AND " clauses)

/-- Binds a comparison operand. Texts, dates and datetimes follow the format of
a temporal column; other operands keep their own kind. -/
def operand (composer : Composer) (column : Option Column) (operator : Operator)
    (value : Value) : Except Fault Param :=
  match value, column with
  | .null, _ => .error
      (.unsupportedOperand ("NULL operand for operator " ++ operator.token))
  | .date _, some column | .dateTime _, some column | .string _, some column =>
    if column.kind.isTemporal then composer.formats.bind value column
    else composer.formats.bindOperand value
  | value, _ => composer.formats.bindOperand value

def patternText (composer : Composer) (operator : Operator) (value : Value) :
    Except Fault String :=
  match value with
  | .null | .binary _ =>
    .error (.unsupportedOperand
      (value.kindName ++ " operand for operator " ++ operator.token))
  | .double double =>
    if double.isFinite then .ok (composer.formats.plainText value)
    else .error (.unsupportedOperand ("non-finite double " ++ double.text))
  | value => .ok (composer.formats.plainText value)

/-- The elements of a list operand: what stands between commas,
trimmed, if anything. -/
def listElements (text : String) : List String :=
  ((Text.pieces ',' text).map Text.trim).filter fun element => element ≠ ""

/-- Binds an element of a list; only a column of numbers has a say in it. -/
def elementParam (composer : Composer) (column : Option Column)
    (element : String) : Except Fault Param :=
  match column with
  | none => .ok (.text element)
  | some column =>
    if column.kind = .integer ∨ column.kind = .double then
      composer.formats.bind (.string element) column
    else .ok (.text element)

/-- The parameters of a list operand; an operand that is no text
is a list of one. -/
def listParams (composer : Composer) (column : Option Column)
    (operator : Operator) (value : Value) : Except Fault (List Param) :=
  match value with
  | .string text => do
    let params ← (listElements text).mapM (composer.elementParam column)
    if params.isEmpty then
      .error (.unsupportedOperand (operator.token ++ " with an empty list"))
    else pure params
  | value => do
    let param ← composer.operand column operator value
    pure [param]

def paramList : List Param → Statement
  | [] => .empty
  | first :: rest =>
    rest.foldl (fun list param => (list.sql ", ").param param)
      (Statement.empty.param first)

/-- The alternatives of a regular expression, empty ones left out. -/
def alternatives (text : String) : List String :=
  (Text.pieces '|' text).filter fun alternative => alternative ≠ ""

/-- What a pattern operator compares with. -/
def likePattern (operator : Operator) (text : String) : String :=
  match operator with
  | .startsWith => text ++ "%"
  | .endsWith => "%" ++ text
  | _ => "%" ++ text ++ "%"

/-- What follows the name in a condition: the operator with its operands. -/
def comparison (composer : Composer) (column : Option Column)
    (condition : Condition) : Except Fault Statement :=
  let operator := condition.operator
  match operator with
  | .isNull => .ok (.ofSql " IS NULL")
  | .notNull => .ok (.ofSql " IS NOT NULL")
  | .equal | .notEqual | .greater | .less | .greaterOrEqual | .lessOrEqual => do
    let param ← composer.operand column operator condition.operand
    pure ((Statement.ofSql (" " ++ operator.token ++ " ")).param param)
  | .contains | .startsWith | .endsWith => do
    let text ← composer.patternText operator condition.operand
    pure ((Statement.ofSql " LIKE ").param (.text (likePattern operator text)))
  | .inList | .notInList => do
    let params ← composer.listParams column operator condition.operand
    let keyword := if operator = .inList then " IN (" else " NOT IN ("
    pure ((Statement.ofSql keyword ++ paramList params).sql ")")
  | .between | .notBetween =>
    match condition.upper with
    | none =>
      .error (.unsupportedOperand
        (operator.token ++ " on '" ++ condition.field ++
          "' requires two operands"))
    | some upper => do
      let lower ← composer.operand column operator condition.operand
      let upper ← composer.operand column operator upper
      let keyword :=
        if operator = .between then " BETWEEN " else " NOT BETWEEN "
      pure ((((Statement.ofSql keyword).param lower).sql " AND ").param upper)
  | .regexp => do
    let text ← composer.patternText .regexp condition.operand
    let parts := alternatives text
    if parts.isEmpty then
      .error (.unsupportedOperand
        ("RGXP on '" ++ condition.field ++ "' has no alternatives"))
    else
      pure ((Statement.ofSql " REGEXP ").param (.text ("|".intercalate parts)))

def condition (composer : Composer) (table : Option Table)
    (condition : Condition) : Except Fault Statement := do
  let comparison ← composer.comparison
    (columnOf? table (lastSegment condition.field)) condition
  pure (Statement.ofSql (composer.quote condition.field) ++ comparison)

/-- Conditions after the first of a group, each with its logic before it. -/
def furtherConditions (composer : Composer) (table : Option Table) :
    List Condition → Statement → Except Fault Statement
  | [], statement => .ok statement
  | next :: rest, statement => do
    let clause ← composer.condition table next
    composer.furtherConditions table rest
      (statement.sql (" " ++ next.logic.keyword ++ " ") ++ clause)

/-- The conditions of a group between parentheses; none for no condition. -/
def group (composer : Composer) (table : Option Table)
    (group : ConditionGroup) : Except Fault (Option Statement) :=
  match group.conditions with
  | [] => .ok none
  | first :: rest => do
    let clause ← composer.condition table first
    let statement ←
      composer.furtherConditions table rest (Statement.ofSql "(" ++ clause)
    pure (some (statement.sql ")"))

structure ComposedGroup where
  name : String
  statement : Statement

def groups (composer : Composer) (table : Option Table) :
    List ConditionGroup → Except Fault (List ComposedGroup)
  | [] => .ok []
  | first :: rest => do
    let composed ← composer.group table first
    let others ← composer.groups table rest
    match composed with
    | none => pure others
    | some statement => pure (⟨first.name, statement⟩ :: others)

end Composer

inductive GroupMapPiece where
  | text (text : String)
  | group (name : String)
  deriving DecidableEq

/-- The pieces of a group map that was cut at its colons. A declared name
between two colons is a group, and takes both; every other colon is text. -/
def groupMapPieces (declared : List String) : List String → List GroupMapPiece
  | [] => []
  | [last] => [.text last]
  | [first, last] => [.text first, .text ":", .text last]
  | first :: name :: next :: rest =>
    if declared.contains name then
      .text first :: .group name :: groupMapPieces declared (next :: rest)
    else
      .text first :: .text ":" :: groupMapPieces declared (name :: next :: rest)

namespace Composer

/-- Writes the groups into the pieces of a group map. -/
def fillPieces (composed : List ComposedGroup) :
    List GroupMapPiece → Statement → Except Fault Statement
  | [], statement => .ok statement
  | .text text :: pieces, statement =>
      fillPieces composed pieces (statement.sql text)
  | .group name :: pieces, statement =>
    match composed.find? fun group => group.name == name with
    | none => .error (.emptyGroup name)
    | some group => fillPieces composed pieces (statement ++ group.statement)

/-- A group map with the named groups written in. -/
def groupMap (template : String) (declared : List String)
    (composed : List ComposedGroup) : Except Fault Statement :=
  fillPieces composed
    (groupMapPieces declared (Text.pieces ':' template)) .empty

/-- The predicate of a filter; empty when no group has a condition. -/
def filter (composer : Composer) (table : Option Table) (filter : Filter) :
    Except Fault Statement := do
  let composed ← composer.groups table filter.groups
  let template := (filter.groupMap.map Text.trim).getD ""
  if template ≠ "" then
    groupMap template (filter.groups.map ConditionGroup.name) composed
  else pure (Statement.join " OR " (composed.map ComposedGroup.statement))

/-- The predicate of criteria, without the keyword WHERE. -/
def predicate (composer : Composer) (table : Option Table) :
    Criteria → Except Fault Statement
  | .all => .ok .empty
  | .keys keys => composer.keys table keys
  | .filter filter => composer.filter table filter

end Composer

end RecordSql
