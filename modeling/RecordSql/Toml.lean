import RecordSql.Number.Double

/-!
# TOML documents

The values of a TOML document and how the lines of one build it up. A table
remembers how it came about, because that decides what may be added to it later:
a header opens a table once, a dotted key adds only to tables made by dotted
keys, and a table between braces is complete.
-/

namespace RecordSql

inductive TableOrigin where
  /-- By a header of its own. -/
  | header
  /-- As a step of a longer header. -/
  | implied
  /-- As a step of a dotted key. -/
  | dotted
  /-- Between braces. -/
  | inline
  deriving DecidableEq

inductive Toml where
  | string (value : String)
  | boolean (value : Bool)
  | integer (value : Int64)
  | double (value : Double)
  /-- A date, a time of day or both, as written. -/
  | moment (text : String)
  | array (items : List Toml)
  | table (origin : TableOrigin) (entries : List (String × Toml))
  /-- An array of tables, a row for each header. -/
  | tables (rows : List (List (String × Toml)))

/-- A key, or the path of a header: the tables on the way and the last name. -/
structure TomlPath where
  steps : List String
  last : String
  deriving DecidableEq

inductive TomlLine where
  | entry (path : TomlPath) (value : Toml)
  | table (path : TomlPath)
  | row (path : TomlPath)

namespace Toml

def entry? (entries : List (String × Toml)) (name : String) : Option Toml :=
  (entries.find? fun entry => entry.1 == name).map Prod.snd

/-- Gives a name what a step makes of its value, a new name at the end. -/
def change? (name : String) (step : Option Toml → Option Toml) :
    List (String × Toml) → Option (List (String × Toml))
  | [] => (step none).map fun value => [(name, value)]
  | entry :: entries =>
    if entry.1 = name then (step (some entry.2)).map fun value =>
      (name, value) :: entries
    else (change? name step entries).map (entry :: ·)

def changeLast? (step : List (String × Toml) → Option (List (String × Toml))) :
    List (List (String × Toml)) → Option (List (List (String × Toml)))
  | [] => none
  | [row] => (step row).map fun row => [row]
  | row :: rows => (changeLast? step rows).map (row :: ·)

/-- Changes the table that a header's steps lead to. A step leads into the
last row of an array of tables, never into a complete value, and makes
what is not there. -/
def changeAt? (change : List (String × Toml) → Option (List (String × Toml))) :
    List String → List (String × Toml) → Option (List (String × Toml))
  | [], entries => change entries
  | name :: steps, entries =>
    change? name
      (fun
        | none => (changeAt? change steps []).map (.table .implied)
        | some (.table origin children) =>
          if origin = .inline then none
          else (changeAt? change steps children).map (.table origin)
        | some (.tables rows) =>
            (changeLast? (changeAt? change steps) rows).map .tables
        | some _ => none)
      entries

/-- Opens the table of a header, which may only have been implied before. -/
def open? (name : String) :
    List (String × Toml) → Option (List (String × Toml)) :=
  change? name fun
    | none => some (.table .header [])
    | some (.table .implied children) => some (.table .header children)
    | some _ => none

def addRow? (name : String) :
    List (String × Toml) → Option (List (String × Toml)) :=
  change? name fun
    | none => some (.tables [[]])
    | some (.tables rows) => some (.tables (rows ++ [[]]))
    | some _ => none

/-- Adds the value of a key, which must be new. The table that holds it was made
by a dotted key, unless the key has no steps. -/
def add? (value : Toml) (last : String) :
    List String → List (String × Toml) → Option (List (String × Toml))
  | [], entries =>
    change? last (fun
      | none => some value
      | some _ => none) entries
  | name :: steps, entries =>
    change? name
      (fun
        | none => (add? value last steps []).map (.table .dotted)
        | some (.table .dotted children) =>
          (add? value last steps children).map (.table .dotted)
        | some (.table .implied children) =>
          if steps.isEmpty then none
          else (add? value last steps children).map (.table .implied)
        | some (.tables rows) =>
          if steps.isEmpty then none
          else (changeLast? (add? value last steps) rows).map .tables
        | some _ => none)
      entries

def inlineTable? (pairs : List (TomlPath × Toml)) : Option Toml :=
  (pairs.foldlM
    (fun entries pair => add? pair.2 pair.1.last pair.1.steps entries) []).map
    (.table .inline)

/-- Adds lines to the entries of a document; `current` leads to
the open table. -/
def addLines? : List TomlLine → List String → List (String × Toml) →
    Option (List (String × Toml))
  | [], _, entries => some entries
  | .entry path value :: lines, current, entries =>
    (changeAt? (add? value path.last path.steps) current entries).bind
      (addLines? lines current)
  | .table path :: lines, _, entries =>
    (changeAt? (open? path.last) path.steps entries).bind
      (addLines? lines (path.steps ++ [path.last]))
  | .row path :: lines, _, entries =>
    (changeAt? (addRow? path.last) path.steps entries).bind
      (addLines? lines (path.steps ++ [path.last]))

end Toml

end RecordSql
