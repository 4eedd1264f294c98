import RecordSql.Json.Shape
import RecordSql.Settings

/-!
# Settings in JSON

Every setting may be left out and takes its default.
-/

namespace RecordSql.Settings

def toJson (settings : Settings) : Json :=
  .object [("dialect", .string settings.engine.name),
    ("date_format", .string settings.dateFormat),
    ("datetime_format", .string settings.dateTimeFormat),
    ("translate_errors", .boolean settings.translateErrors),
    ("sequence_function", .string settings.sequenceFunction)]

def fieldNames : List String :=
  ["dialect", "date_format", "datetime_format", "translate_errors",
    "sequence_function"]

def ofJson? (json : Json) : Option Settings := do
  let default : Settings := {}
  match ← json.fields? fieldNames with
  | [engine, dateFormat, dateTimeFormat, translateErrors, sequenceFunction] =>
    let engine ← Json.defaulted? default.engine
      (fun json => json.name?.bind Engine.ofSettingName?) engine
    let dateFormat ← Json.defaulted? default.dateFormat Json.string? dateFormat
    let dateTimeFormat ←
      Json.defaulted? default.dateTimeFormat Json.string? dateTimeFormat
    let translateErrors ←
      Json.defaulted? default.translateErrors Json.boolean? translateErrors
    let sequenceFunction ←
      Json.defaulted? default.sequenceFunction Json.string? sequenceFunction
    pure ⟨engine, dateFormat, dateTimeFormat, translateErrors, sequenceFunction⟩
  | _ => none

end RecordSql.Settings
