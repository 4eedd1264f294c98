import RecordSql.Fault
import RecordSql.Statement
import RecordSql.Text.Hex
import RecordSql.Text.Letters
import RecordSql.Text.Lowercase
import RecordSql.Text.Blank

/-!
# Dialects

What differs between the three database engines: how names and literals are
quoted, how parameters are numbered, how rows are limited, and how the next id
of a sequence is asked for. All else is common SQL.
-/

namespace RecordSql

inductive Engine where
  | mysql
  | sqlserver
  | sqlite
  deriving DecidableEq

namespace Engine

def name : Engine → String
  | mysql => "mysql"
  | sqlserver => "sqlserver"
  | sqlite => "sqlite"

/-- The engine that a name stands for, in letters of any case. -/
def parse (text : String) : Except Fault Engine :=
  let lowered := Text.lower text
  if lowered ∈ ["mysql", "my_sql", "mariadb"] then .ok mysql
  else if lowered ∈ ["sqlserver", "sql_server", "mssql"] then .ok sqlserver
  else if lowered ∈ ["sqlite", "sqlite3"] then .ok sqlite
  else
    .error (.invalidSetting ("Unknown dialect: '" ++ lowered ++
      "'. Valid options: mysql, sqlserver, sqlite"))

def ofSettingName? (name : String) : Option Engine :=
  if name ∈ ["mysql", "mariadb"] then some mysql
  else if name ∈ ["sqlserver", "mssql"] then some sqlserver
  else if name ∈ ["sqlite", "sqlite3"] then some sqlite
  else none

end Engine

/-- An engine's SQL; MySQL takes the next id of a sequence from a
stored function. -/
inductive Dialect where
  | mysql (sequenceFunction : String)
  | sqlserver
  | sqlite
  deriving DecidableEq

namespace Dialect

def engine : Dialect → Engine
  | mysql _ => .mysql
  | sqlserver => .sqlserver
  | sqlite => .sqlite

def ofEngine (engine : Engine) (sequenceFunction : String) : Dialect :=
  match engine with
  | .mysql => mysql sequenceFunction
  | .sqlserver => sqlserver
  | .sqlite => sqlite

def name (dialect : Dialect) : String := dialect.engine.name

/-- Every occurrence of a character written twice. -/
def doubling (quote : Char) : List Char → List Char
  | [] => []
  | character :: rest =>
    if character = quote then quote :: quote :: doubling quote rest
    else character :: doubling quote rest

/-- A text between an opening and a closing quote, the closing one
doubled inside. -/
def quoted (opening closing : Char) (text : List Char) : List Char :=
  opening :: doubling closing text ++ [closing]

/-- The words that SQLite may not see bare. -/
def reservedWords : List String :=
  ["add", "all", "alter", "and", "as", "asc", "between", "by", "case", "check",
    "collate", "column", "constraint", "create", "default", "delete", "desc",
    "distinct", "drop", "else", "end", "escape", "except", "exists", "foreign",
    "from", "group", "having", "in", "index", "insert", "intersect", "into",
    "is", "join", "key", "like", "limit", "not", "null", "offset", "on", "or",
    "order", "primary", "references", "select", "set", "table", "then", "to",
    "transaction", "union", "unique", "update", "using", "values",
    "when", "where"]

/-- A plain word that is not reserved in any letter case. -/
def isBareWord (segment : List Char) : Bool :=
  let word := String.ofList segment
  Text.isPlainWord word && !(reservedWords.contains (Text.lowerAscii word))

/-- One segment of a name; a star stays bare. -/
def quoteSegment (dialect : Dialect) (segment : List Char) : List Char :=
  if segment = ['*'] then segment
  else
    match dialect with
    | mysql _ => quoted '\x60' '\x60' segment
    | sqlserver => quoted '[' ']' segment
    | sqlite => if isBareWord segment then segment else quoted '"' '"' segment

def quoteChars (dialect : Dialect) (name : List Char) : List Char :=
  List.intercalate ['.']
    ((Text.splitOn (· == '.') name).map dialect.quoteSegment)

/-- A name with each of its segments between dots quoted on its own. -/
def quoteName (dialect : Dialect) (name : String) : String :=
  String.ofList (dialect.quoteChars name.toList)

/-- The placeholder of a parameter by its position from one. -/
def placeholder (dialect : Dialect) (position : Nat) : String :=
  match dialect with
  | sqlserver => "@P" ++ Number.natText position
  | _ => "?"

/-- The characters of a text literal. Quotes are doubled, and for MySQL, where
it would escape the next character, the backslash too. -/
def textLiteralChars (dialect : Dialect) (text : List Char) : List Char :=
  match dialect with
  | mysql _ => quoted '\'' '\'' (doubling '\\' text)
  | _ => quoted '\'' '\'' text

def textLiteral (dialect : Dialect) (text : String) : String :=
  String.ofList (dialect.textLiteralChars text.toList)

/-- A literal of bytes: a call that reads hexadecimal digits. -/
def bytesLiteral (dialect : Dialect) (bytes : List UInt8) : String :=
  match dialect with
  | mysql _ => "UNHEX('" ++ Text.hex bytes ++ "')"
  | sqlserver => "CONVERT(VARBINARY(MAX), '" ++ Text.hex bytes ++ "', 2)"
  | sqlite => "unhex('" ++ Text.hex bytes ++ "')"

def literal (dialect : Dialect) : Param → String
  | .null => "NULL"
  | .integer value => Number.int64Text value
  | .double value => value.text
  | .boolean true => "'1'"
  | .boolean false => "'0'"
  | .text value => dialect.textLiteral value
  | .bytes value => dialect.bytesLiteral value

/-- The verb of an insert that passes over rows that break a constraint. -/
def insertIgnoring? : Dialect → Option String
  | mysql _ => some "INSERT IGNORE"
  | sqlserver => none
  | sqlite => some "INSERT OR IGNORE"

/-- What follows the table in an insert that sets no column. -/
def defaultValues : Dialect → String
  | mysql _ => " () VALUES ()"
  | _ => " DEFAULT VALUES"

end Dialect

/-- A window of rows: how many, and how many to skip before. -/
structure Page where
  limit : Nat
  offset : Nat
  deriving DecidableEq

namespace Dialect

private def limitOffset (page : Page) : String :=
  if 0 < page.offset then
    " LIMIT " ++ Number.natText page.limit ++ " OFFSET " ++
      Number.natText page.offset
  else " LIMIT " ++ Number.natText page.limit

/-- Skipping rows takes an ORDER BY, so one without effect is put in
where there is none. -/
private def offsetFetch (page : Page) (ordered : Bool) : String :=
  (if ordered then "" else " ORDER BY (SELECT NULL)") ++
    " OFFSET " ++ Number.natText page.offset ++
    " ROWS FETCH NEXT " ++ Number.natText page.limit ++ " ROWS ONLY"

/-- What stands right after SELECT to limit the rows. -/
def pagePrefix? (dialect : Dialect) (page : Page) : Option String :=
  match dialect with
  | sqlserver =>
    if page.offset = 0 then some ("TOP " ++ Number.natText page.limit) else none
  | _ => none

/-- What stands after all other clauses to limit the rows. -/
def pageSuffix? (dialect : Dialect) (page : Page) (ordered : Bool) :
    Option String :=
  match dialect with
  | sqlserver =>
    if page.offset = 0 then none else some (offsetFetch page ordered)
  | _ => some (limitOffset page)

/-- The row limit of a query whose beginning cannot be changed. -/
def trailingPage (dialect : Dialect) (page : Page) (ordered : Bool) : String :=
  match dialect with
  | sqlserver => offsetFetch page ordered
  | _ => limitOffset page

/-- The statement that returns the next id of a sequence; none where ids are
assigned by inserts alone. -/
def nextId? (dialect : Dialect) (sequence : String) : Option Statement :=
  match dialect with
  | mysql sequenceFunction =>
    some (((Statement.ofSql ("SELECT " ++ sequenceFunction ++ "(")).param
      (.text sequence)).sql ") AS \x60nextval\x60")
  | sqlserver =>
    some (.ofSql
      ("SELECT NEXT VALUE FOR " ++ dialect.quoteName sequence ++ " AS nextval"))
  | sqlite => none

end Dialect

namespace Statement

/-- The statement as it is executed, with placeholders. -/
def executable (statement : Statement) (dialect : Dialect) : String :=
  statement.render fun position _ => dialect.placeholder position

/-- The statement as it is logged, with its parameters written in.
Never executed. -/
def literal (statement : Statement) (dialect : Dialect) : String :=
  statement.render fun _ value => dialect.literal value

end Statement

end RecordSql
