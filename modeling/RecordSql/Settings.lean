import RecordSql.Dialect
import RecordSql.Formats

/-!
# Settings

The settings of a database handle with their defaults and their validation.
-/

namespace RecordSql

structure Settings where
  engine : Engine := .sqlite
  dateFormat : String := "%Y-%m-%d"
  dateTimeFormat : String := "%Y-%m-%d %H:%M:%S"
  /-- Whether messages of known error codes replace those of the driver. -/
  translateErrors : Bool := true
  /-- The stored function that returns the next id of a sequence in MySQL. -/
  sequenceFunction : String := "nextval"
  deriving DecidableEq

namespace Settings

/-- A format must not be blank and must be a pattern. -/
def checkFormat (field format : String) : Except Fault Unit :=
  if Text.isAllBlank format then
    .error (.invalidSetting (field ++ " must not be empty"))
  else if (Pattern.ofText? format).isNone then
    .error (.invalidSetting
      (field ++ " has an invalid format specifier: '" ++ format ++ "'"))
  else .ok ()

/-- The name of a function must be a plain word. -/
def checkSequenceFunction (function : String) : Except Fault Unit :=
  if Text.isPlainWord function then .ok ()
  else
    .error
      (.invalidSetting
        ("sequence_function must be a plain identifier, got: '" ++
          function ++ "'"))

/-- The first reason for which settings are not valid, in the
order of the fields. -/
def validate (settings : Settings) : Except Fault Unit := do
  checkFormat "date_format" settings.dateFormat
  checkFormat "datetime_format" settings.dateTimeFormat
  checkSequenceFunction settings.sequenceFunction

def dialect (settings : Settings) : Dialect :=
  .ofEngine settings.engine settings.sequenceFunction

def formats (settings : Settings) : Formats :=
  .ofTexts settings.dateFormat settings.dateTimeFormat

end Settings

/-- Values that replace single settings, as texts of the environment. -/
structure Overrides where
  dialect : Option String := none
  dateFormat : Option String := none
  dateTimeFormat : Option String := none
  translateErrors : Option String := none
  sequenceFunction : Option String := none
  deriving DecidableEq

/-- A switch given as a word in letters of any case. -/
def switchOfText? (text : String) : Option Bool :=
  let lowered := Text.lower text
  if lowered ∈ ["1", "true", "yes", "on"] then some true
  else if lowered ∈ ["0", "false", "no", "off"] then some false
  else none

namespace Overrides

/-- The settings with the overrides put over them. A dialect or a switch that is
not recognised leaves the setting as it was. -/
def apply (overrides : Overrides) (settings : Settings) : Settings where
  engine :=
    (overrides.dialect.bind fun text => (Engine.parse text).toOption).getD
      settings.engine
  dateFormat := overrides.dateFormat.getD settings.dateFormat
  dateTimeFormat := overrides.dateTimeFormat.getD settings.dateTimeFormat
  translateErrors :=
    (overrides.translateErrors.bind switchOfText?).getD settings.translateErrors
  sequenceFunction := overrides.sequenceFunction.getD settings.sequenceFunction

end Overrides

end RecordSql
