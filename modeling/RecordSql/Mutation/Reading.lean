import RecordSql.Dialect.Reading
import RecordSql.Text.Separated

/-!
# Reading inserts and updates

The reference readers of INSERT and UPDATE statements: what a server takes from
one about the table, the columns and the parameters that they are set to.  Words
are known by their letters in any case.
-/

namespace RecordSql

/-- What an INSERT says of the columns of the new row. -/
inductive InsertedValues where
  /-- All columns take their defaults. -/
  | defaults
  /-- The columns, each by the segments of its name, and the positions of the
  parameters that stand in the list of values. -/
  | listed (columns : List (List (List Char))) (positions : List Nat)
  deriving DecidableEq

/-- What an INSERT says, with the table by the segments of its name. -/
structure InsertText where
  ignoring : Bool
  table : List (List Char)
  values : InsertedValues
  deriving DecidableEq

/-- What an UPDATE says, with the table and the columns by the segments of their
names and the columns in their order. -/
structure UpdateText where
  table : List (List Char)
  columns : List (List (List Char))
  /-- The positions of the parameters that the columns are set to. -/
  positions : List Nat
  /-- What follows the keyword WHERE. -/
  condition : List Char
  deriving DecidableEq

namespace Dialect

/-- What follows INSERT where rows that break a constraint are passed over. -/
def ignoringWords? : Dialect → Option String
  | mysql _ => some " ignore"
  | sqlserver => none
  | sqlite => some " or ignore"

def readIgnoring (dialect : Dialect) (text : List Char) : Bool × List Char :=
  match dialect.ignoringWords?.bind fun words => Text.afterWord? words text with
  | some rest => (true, rest)
  | none => (false, text)

/-- Reads a placeholder, and its number where it has one. -/
def readNumbered (dialect : Dialect) (text : List Char) :
    Option (Option Nat × List Char) :=
  match dialect, text with
  | sqlserver, '@' :: 'P' :: rest =>
    (Number.natOfDigits? (rest.takeWhile Char.isDigit)).map fun number =>
      (some number, rest.dropWhile Char.isDigit)
  | sqlserver, _ => none
  | _, '?' :: rest => some (none, rest)
  | _, _ => none

/-- The positions of the parameters that placeholders stand for.  One without a
number stands for the parameter at its own place among them. -/
def positions (numbers : List (Option Nat)) : List Nat :=
  numbers.mapIdx fun index number => number.getD (index + 1)

/-- Reads names between parentheses and, between others, placeholders. -/
def readListed? (dialect : Dialect) (text : List Char) :
    Option InsertedValues := do
  let rest ← Text.afterWord? " (" text
  let (columns, rest) ← Text.readItems [',', ' '] dialect.readName rest
  let rest ← Text.afterWord? ") values (" rest
  let (numbers, rest) ← Text.readItems [',', ' '] dialect.readNumbered rest
  if rest = [')'] then some (.listed columns (positions numbers)) else none

def readInsertedValues? (dialect : Dialect) (text : List Char) :
    Option InsertedValues :=
  dialect.readListed? text <|>
    if text = dialect.defaultValues.toList then some .defaults else none

/-- Reads a whole INSERT. -/
def readInsert? (dialect : Dialect) (text : List Char) : Option InsertText := do
  let rest ← Text.afterWord? "insert" text
  let (ignoring, rest) := dialect.readIgnoring rest
  let rest ← Text.afterWord? " into " rest
  let (table, rest) ← dialect.readName rest
  let values ← dialect.readInsertedValues? rest
  some ⟨ignoring, table, values⟩

/-- Reads a column and the placeholder that it is set to. -/
def readSetting (dialect : Dialect) (text : List Char) :
    Option ((List (List Char) × Option Nat) × List Char) := do
  let (column, rest) ← dialect.readName text
  let rest ← Text.afterWord? " = " rest
  let (number, rest) ← dialect.readNumbered rest
  some ((column, number), rest)

/-- Reads an UPDATE up to its condition, which it must have. -/
def readUpdate? (dialect : Dialect) (text : List Char) : Option UpdateText := do
  let rest ← Text.afterWord? "update " text
  let (table, rest) ← dialect.readName rest
  let rest ← Text.afterWord? " set " rest
  let (settings, rest) ← Text.readItems [',', ' '] dialect.readSetting rest
  let condition ← Text.afterWord? " where " rest
  some ⟨table, settings.map Prod.fst,
    positions (settings.map Prod.snd), condition⟩

end Dialect

end RecordSql
