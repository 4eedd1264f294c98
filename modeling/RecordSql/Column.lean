import RecordSql.Number.Whole
import RecordSql.Text.Blank
import RecordSql.Text.Letters

/-!
# Columns and tables

A declared column type is split into a base name and a size and classified into
one of seven kinds, which decide how values are bound to the column. A table is
its columns in declared order.
-/

namespace RecordSql

/-- The kind of values that a column holds. -/
inductive ColumnKind where
  | integer
  | double
  | date
  | dateTime
  | boolean
  | binary
  | string
  deriving DecidableEq

namespace ColumnKind

def isTemporal : ColumnKind → Bool
  | date | dateTime => true
  | _ => false

def name : ColumnKind → String
  | integer => "integer"
  | double => "double"
  | date => "date"
  | dateTime => "datetime"
  | boolean => "boolean"
  | binary => "binary"
  | string => "string"

def classify (base : String) (size : Option Nat) : ColumnKind :=
  if base = "tinyint" ∧ size = some 1 then boolean
  else if base ∈ ["bool", "boolean", "bit"] then boolean
  else if base ∈ ["tinyint", "smallint", "mediumint", "int", "integer",
      "bigint", "long"] then
    integer
  else if base ∈ ["float", "double", "real"] then double
  else if base = "date" then date
  else if base ∈ ["datetime", "timestamp"] then dateTime
  else if base ∈ ["tinyblob", "smallblob", "blob", "mediumblob", "longblob",
      "bigblob", "binary", "varbinary"] then
    binary
  else string

end ColumnKind

def firstRun (test : Char → Bool) (text : List Char) : List Char :=
  (text.dropWhile fun character => !test character).takeWhile test

/-- The base name of a declared type: its first run of letters, lowered. -/
def baseType (declared : String) : String :=
  String.ofList (firstRun Char.isAlpha (Text.lowerAscii declared).toList)

/-- The size of a declared type: its first run of digits, if it fits 32 bits. -/
def declaredSize (declared : String) : Option Nat :=
  Number.nat32? (firstRun Char.isDigit declared.toList)

structure DeclaredColumn where
  name : String
  type : String
  nullable : Bool
  primaryKey : Bool
  default : Option String
  deriving DecidableEq

/-- A classified column. -/
structure Column where
  name : String
  /-- The base name of the declared type. -/
  base : String
  kind : ColumnKind
  /-- The declared size, one where there is none or it is zero. -/
  size : Nat
  required : Bool
  primaryKey : Bool
  default : Option String
  deriving DecidableEq

/-- Classifies a declared column. -/
def Column.ofDeclared (declared : DeclaredColumn) : Column where
  name := declared.name
  base := baseType declared.type
  kind := .classify (baseType declared.type) (declaredSize declared.type)
  size := max 1 ((declaredSize declared.type).getD 0)
  required := !declared.nullable
  primaryKey := declared.primaryKey
  default := declared.default

structure Table where
  name : String
  columns : List Column
  deriving DecidableEq

namespace Table

def ofDeclared (name : String) (columns : List DeclaredColumn) : Table :=
  ⟨name, columns.map Column.ofDeclared⟩

def column? (table : Table) (name : String) : Option Column :=
  table.columns.find? fun column => column.name == name

def contains (table : Table) (name : String) : Bool :=
  (table.column? name).isSome

/-- The columns of the primary key, in declared order. -/
def primaryKeys (table : Table) : List Column :=
  table.columns.filter fun column => column.primaryKey

end Table

end RecordSql
