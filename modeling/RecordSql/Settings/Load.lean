import RecordSql.Settings
import RecordSql.Toml.Reading

/-!
# Loading settings

Settings come from three layers: a file of TOML over the defaults, and values of
the environment over both. What they amount to is validated, and a failure at
any layer leaves nothing behind.
-/

namespace RecordSql

inductive LoadFailure where
  /-- The file is not TOML, or a setting in it has the wrong type. -/
  | malformedFile
  | invalid (fault : Fault)
  deriving DecidableEq

namespace Engine

/-- An empty array or table, which may stand for the content of a name. -/
def isEmptyContent : Toml → Bool
  | .array items => items.isEmpty
  | .table _ entries => entries.isEmpty
  | .tables rows => rows.isEmpty
  | _ => false

/-- The engine of a setting: its name, or the only name in a table
without content. -/
def ofToml? : Toml → Option Engine
  | .string name => ofSettingName? name
  | .table _ [(name, content)] =>
      if isEmptyContent content then ofSettingName? name else none
  | _ => none

end Engine

namespace Settings

/-- A setting that may be left out. -/
def layered? {α : Type} (default : α) (read : Toml → Option α) :
    Option Toml → Option α
  | none => some default
  | some value => read value

def textOfToml? : Toml → Option String
  | .string value => some value
  | _ => none

def switchOfToml? : Toml → Option Bool
  | .boolean value => some value
  | _ => none

/-- The settings of a document; other entries are passed over. -/
def ofToml? (entries : List (String × Toml)) : Option Settings := do
  let default : Settings := {}
  let entry := Toml.entry? entries
  let engine ← layered? default.engine Engine.ofToml? (entry "dialect")
  let dateFormat ← layered? default.dateFormat textOfToml? (entry "date_format")
  let dateTimeFormat ←
    layered? default.dateTimeFormat textOfToml? (entry "datetime_format")
  let translateErrors ←
    layered? default.translateErrors switchOfToml? (entry "translate_errors")
  let sequenceFunction ←
    layered? default.sequenceFunction textOfToml? (entry "sequence_function")
  pure ⟨engine, dateFormat, dateTimeFormat, translateErrors, sequenceFunction⟩

/-- The settings of a file; the defaults where there is none. -/
def ofFile (file : Option String) : Except LoadFailure Settings :=
  match file with
  | none => .ok {}
  | some text =>
    match (Toml.ofText? text).bind ofToml? with
    | some settings => .ok settings
    | none => .error .malformedFile

def load (file : Option String) (overrides : Overrides) :
    Except LoadFailure Settings :=
  match ofFile file with
  | .error failure => .error failure
  | .ok fromFile =>
    let settings := overrides.apply fromFile
    match settings.validate with
    | .error fault => .error (.invalid fault)
    | .ok () => .ok settings

/-- Loads settings, the defaults on any failure. -/
def loadOrDefault (file : Option String) (overrides : Overrides) : Settings :=
  match load file overrides with
  | .ok settings => settings
  | .error _ => {}

end Settings

end RecordSql
