import RecordSql.Proofs.Outcome
import RecordSql.Settings.Load

/-!
# Settings in layers

A source of settings decides some of the fields and leaves the others to the
sources below it: the environment stands over the file, the file over the
defaults.  A variable that is not recognised decides nothing.  What the layers
amount to is taken as a whole or not at all.
-/

namespace RecordSql

variable {α : Type} {engine : Engine} {settings : Settings}
  {file : Option String} {overrides : Overrides}

/-- The words for an engine, in lowercase. -/
def Engine.aliases : Engine → List String
  | mysql => ["mysql", "my_sql", "mariadb"]
  | sqlserver => ["sqlserver", "sql_server", "mssql"]
  | sqlite => ["sqlite", "sqlite3"]

/-- The words for a switch, in lowercase. -/
def switchWords : Bool → List String
  | true => ["1", "true", "yes", "on"]
  | false => ["0", "false", "no", "off"]

namespace Engine

def IsCalled (engine : Engine) (text : String) : Prop :=
  Text.lower text ∈ engine.aliases

theorem eq_of_mem_aliases {first second : Engine} :
    ∀ word ∈ first.aliases, word ∈ second.aliases → first = second := by
  cases first <;> cases second <;> decide

theorem toOption_parse_eq_some_iff {text : String} :
    (parse text).toOption = some engine ↔ engine.IsCalled text := by
  have found (other : Engine) (called : other.IsCalled text) :
      some other = some engine ↔ engine.IsCalled text := by
    constructor
    · rintro ⟨⟩
      exact called
    · intro alsoCalled
      exact congrArg some (eq_of_mem_aliases _ called alsoCalled)
  rw [parse]
  split
  · next called => exact found .mysql called
  split
  · next called => exact found .sqlserver called
  split
  · next called => exact found .sqlite called
  · constructor
    · nofun
    · cases engine <;> intro called <;> contradiction

end Engine

/-- The text stands for the position of a switch. -/
def IsSwitch (value : Bool) (text : String) : Prop :=
  Text.lower text ∈ switchWords value

theorem switchOfText?_eq_some_iff {text : String} {value : Bool} :
    switchOfText? text = some value ↔ IsSwitch value text := by
  rw [switchOfText?]
  split
  · next on =>
      cases value with
      | true => exact iff_of_true rfl on
      | false =>
          have apart : ∀ word ∈ switchWords true, word ∉ switchWords false := by
            decide
          exact iff_of_false nofun (apart _ on)
  · next notOn =>
      split
      · next off =>
          cases value with
          | true => exact iff_of_false nofun notOn
          | false => exact iff_of_true rfl off
      · next notOff =>
          cases value with
          | true => exact iff_of_false nofun notOn
          | false => exact iff_of_false nofun notOff

/-- What one source of settings says: a value for each field that it decides. -/
structure Layer where
  engine : Option Engine := none
  dateFormat : Option String := none
  dateTimeFormat : Option String := none
  translateErrors : Option Bool := none
  sequenceFunction : Option String := none

namespace Layer

/-- Each field is the layer's if the layer decides it, and stays as
it is otherwise. -/
def onto (layer : Layer) (settings : Settings) : Settings where
  engine := layer.engine.getD settings.engine
  dateFormat := layer.dateFormat.getD settings.dateFormat
  dateTimeFormat := layer.dateTimeFormat.getD settings.dateTimeFormat
  translateErrors := layer.translateErrors.getD settings.translateErrors
  sequenceFunction := layer.sequenceFunction.getD settings.sequenceFunction

/-- The environment decides the fields whose variables are set.  The variables
of the engine and of the switch must be words for one of their values, the texts
are taken as they are. -/
structure OfOverrides (layer : Layer) (overrides : Overrides) : Prop where
  engine : ∀ engine, layer.engine = some engine ↔
    ∃ text, overrides.dialect = some text ∧ engine.IsCalled text
  dateFormat : layer.dateFormat = overrides.dateFormat
  dateTimeFormat : layer.dateTimeFormat = overrides.dateTimeFormat
  translateErrors : ∀ value, layer.translateErrors = some value ↔
    ∃ text, overrides.translateErrors = some text ∧ IsSwitch value text
  sequenceFunction : layer.sequenceFunction = overrides.sequenceFunction

/-- An entry that is left out gives no value, and one that is
there must give one. -/
def Gives (read : Toml → Option α) : Option Toml → Option α → Prop :=
  Option.Rel fun entry value => read entry = some value

/-- A document decides the fields that it has entries for. -/
structure OfEntries (layer : Layer)
    (entries : List (String × Toml)) : Prop where
  engine : Gives Engine.ofToml? (Toml.entry? entries "dialect") layer.engine
  dateFormat : Gives Settings.textOfToml?
    (Toml.entry? entries "date_format") layer.dateFormat
  dateTimeFormat :
    Gives Settings.textOfToml?
      (Toml.entry? entries "datetime_format") layer.dateTimeFormat
  translateErrors :
    Gives Settings.switchOfToml?
      (Toml.entry? entries "translate_errors") layer.translateErrors
  sequenceFunction :
    Gives Settings.textOfToml?
      (Toml.entry? entries "sequence_function") layer.sequenceFunction

/-- A file decides what the document in it does, and nothing if there is no
file.  A text that is no document of settings is no layer. -/
inductive OfFile : Layer → Option String → Prop
  | missing : OfFile {} none
  | document {layer : Layer} {text : String} {entries : List (String × Toml)}
      (parsed : Toml.ofText? text = some entries)
      (read : layer.OfEntries entries) :
      OfFile layer (some text)

theorem forall_not_ofFile_iff :
    (∀ layer : Layer, ¬ layer.OfFile file) ↔
      ∃ text, file = some text ∧
        ∀ layer : Layer, ¬ layer.OfFile (some text) := by
  constructor
  · intro noLayer
    cases file with
    | none => exact absurd .missing (noLayer {})
    | some text => exact ⟨text, rfl, noLayer⟩
  · rintro ⟨_, rfl, noLayer⟩
    exact noLayer

/-- The layer of the environment, computed. -/
def ofOverrides (overrides : Overrides) : Layer where
  engine := overrides.dialect.bind fun text => (Engine.parse text).toOption
  dateFormat := overrides.dateFormat
  dateTimeFormat := overrides.dateTimeFormat
  translateErrors := overrides.translateErrors.bind switchOfText?
  sequenceFunction := overrides.sequenceFunction

theorem apply_eq_onto :
    overrides.apply settings = (ofOverrides overrides).onto settings :=
  rfl

theorem ofOverrides_iff {layer : Layer} :
    layer.OfOverrides overrides ↔ layer = ofOverrides overrides := by
  constructor
  · rintro ⟨engine, dateFormat, dateTimeFormat, translateErrors,
      sequenceFunction⟩
    obtain ⟨_, _, _, _, _⟩ := layer
    simp only [ofOverrides, mk.injEq]
    refine ⟨Option.ext fun value => ?_, dateFormat, dateTimeFormat,
      Option.ext fun value => ?_, sequenceFunction⟩
    · simp only [engine, Option.bind_eq_some_iff,
        Engine.toOption_parse_eq_some_iff]
    · simp only [translateErrors, Option.bind_eq_some_iff,
        switchOfText?_eq_some_iff]
  · rintro rfl
    constructor
    · intro engine
      simp only [ofOverrides, Option.bind_eq_some_iff,
        Engine.toOption_parse_eq_some_iff]
    · rfl
    · rfl
    · intro value
      simp only [ofOverrides, Option.bind_eq_some_iff,
        switchOfText?_eq_some_iff]
    · rfl

theorem layered?_eq_some_iff {read : Toml → Option α} {entry : Option Toml}
    {default value : α} : Settings.layered? default read entry = some value ↔
      ∃ given, Gives read entry given ∧ given.getD default = value := by
  constructor
  · intro layered
    cases entry with
    | none => exact ⟨none, .none, Option.some.inj layered⟩
    | some toml => exact ⟨some value, .some layered, rfl⟩
  · rintro ⟨given, gives, rfl⟩
    cases gives with
    | none => rfl
    | some readEntry => exact readEntry

theorem ofToml?_eq_some_iff {entries : List (String × Toml)} :
    Settings.ofToml? entries = some settings ↔
      ∃ layer : Layer, layer.OfEntries entries ∧ settings = layer.onto {} := by
  simp only [Settings.ofToml?, Option.bind_eq_bind, Option.bind_eq_some_iff,
    layered?_eq_some_iff, Option.pure_def, Option.some.injEq]
  constructor
  · rintro ⟨_, ⟨engine, hasEngine, rfl⟩, _, ⟨dateFormat, hasDateFormat, rfl⟩,
      _, ⟨dateTimeFormat, hasDateTimeFormat, rfl⟩,
      _, ⟨translateErrors, hasTranslateErrors, rfl⟩,
      _, ⟨sequenceFunction, hasSequenceFunction, rfl⟩, rfl⟩
    exact ⟨⟨engine, dateFormat, dateTimeFormat, translateErrors,
      sequenceFunction⟩,
      ⟨hasEngine, hasDateFormat, hasDateTimeFormat, hasTranslateErrors,
        hasSequenceFunction⟩, rfl⟩
  · rintro ⟨layer, has, rfl⟩
    exact ⟨_, ⟨_, has.engine, rfl⟩, _, ⟨_, has.dateFormat, rfl⟩, _,
      ⟨_, has.dateTimeFormat, rfl⟩, _, ⟨_, has.translateErrors, rfl⟩, _,
      ⟨_, has.sequenceFunction, rfl⟩, rfl⟩

theorem ofFile_eq_ok_iff :
    Settings.ofFile file = .ok settings ↔
      ∃ layer : Layer, layer.OfFile file ∧ settings = layer.onto {} := by
  cases file with
  | none =>
      constructor
      · rintro ⟨⟩
        exact ⟨{}, .missing, rfl⟩
      · rintro ⟨_, ⟨⟩, rfl⟩
        rfl
  | some text =>
      have read : Settings.ofFile (some text) = .ok settings ↔
          (Toml.ofText? text).bind Settings.ofToml? = some settings := by
        rw [Settings.ofFile]
        cases (Toml.ofText? text).bind Settings.ofToml? <;> simp
      rw [read, Option.bind_eq_some_iff]
      constructor
      · rintro ⟨entries, parsed, readEntries⟩
        obtain ⟨layer, has, rfl⟩ := ofToml?_eq_some_iff.mp readEntries
        exact ⟨layer, .document parsed has, rfl⟩
      · rintro ⟨layer, ofFile, rfl⟩
        cases ofFile with
        | document parsed has =>
            exact ⟨_, parsed, ofToml?_eq_some_iff.mpr ⟨layer, has, rfl⟩⟩

theorem ofFile_eq_error_iff {failure : LoadFailure} :
    Settings.ofFile file = .error failure ↔
      failure = .malformedFile ∧ ∀ layer : Layer, ¬ layer.OfFile file := by
  have malformed {failure : LoadFailure}
        (refused : Settings.ofFile file = .error failure) :
      failure = .malformedFile := by
    rw [Settings.ofFile.eq_def] at refused
    split at refused
    · cases refused
    · split at refused
      · cases refused
      · exact (Except.error.inj refused).symm
  constructor
  · intro refused
    refine ⟨malformed refused, fun layer ofFile => ?_⟩
    have read := ofFile_eq_ok_iff.mpr ⟨layer, ofFile, rfl⟩
    exact nomatch refused.symm.trans read
  · rintro ⟨rfl, noLayer⟩
    cases read : Settings.ofFile file with
    | ok settings =>
        obtain ⟨layer, ofFile, _⟩ := ofFile_eq_ok_iff.mp read
        exact absurd ofFile (noLayer layer)
    | error failure => rw [malformed read]

end Layer

namespace Settings

/-- The settings are what the environment makes of what the file makes
of the defaults. -/
def Layered (file : Option String) (overrides : Overrides)
    (settings : Settings) : Prop :=
  ∃ upper lower : Layer, upper.OfOverrides overrides ∧ lower.OfFile file ∧
    settings = upper.onto (lower.onto {})

theorem layered_iff :
    Layered file overrides settings ↔
      ∃ fromFile, ofFile file = .ok fromFile ∧
        settings = overrides.apply fromFile := by
  simp only [Layered, Layer.ofOverrides_iff, Layer.ofFile_eq_ok_iff,
    Layer.apply_eq_onto]
  constructor
  · rintro ⟨_, lower, rfl, has, rfl⟩
    exact ⟨_, ⟨lower, has, rfl⟩, rfl⟩
  · rintro ⟨_, ⟨lower, has, rfl⟩, rfl⟩
    exact ⟨_, lower, rfl, has, rfl⟩

theorem load_eq_bind :
    load file overrides =
      ofFile file >>= fun fromFile =>
        (overrides.apply fromFile).validate.mapError .invalid >>= fun _ =>
          .ok (overrides.apply fromFile) := by
  rw [load]
  cases ofFile file with
  | error failure => rfl
  | ok fromFile =>
      cases checked : (overrides.apply fromFile).validate <;>
        simp [bind, Except.bind, Except.mapError, checked]

theorem load_eq_ok_iff :
    load file overrides = .ok settings ↔
      Layered file overrides settings ∧ settings.validate = .ok () := by
  simp only [load_eq_bind, Outcome.bind_eq_ok_iff,
    Outcome.mapError_eq_ok_iff, layered_iff]
  constructor
  · rintro ⟨fromFile, read, _, valid, ⟨⟩⟩
    exact ⟨⟨fromFile, read, rfl⟩, valid⟩
  · rintro ⟨⟨fromFile, read, rfl⟩, valid⟩
    exact ⟨fromFile, read, (), valid, rfl⟩

theorem load_eq_error_iff {failure : LoadFailure} :
    load file overrides = .error failure ↔
      (failure = .malformedFile ∧ ∀ layer : Layer, ¬ layer.OfFile file) ∨
        ∃ settings fault, Layered file overrides settings ∧
          settings.validate = .error fault ∧
          failure = .invalid fault := by
  simp only [load_eq_bind, Outcome.bind_eq_error_iff,
    Outcome.mapError_eq_error_iff, Layer.ofFile_eq_error_iff, layered_iff]
  refine or_congr_right ?_
  constructor
  · rintro ⟨fromFile, read, ⟨fault, checked, rfl⟩ | ⟨_, _, ⟨⟩⟩⟩
    exact ⟨_, fault, ⟨fromFile, read, rfl⟩, checked, rfl⟩
  · rintro ⟨_, fault, ⟨fromFile, read, rfl⟩, checked, rfl⟩
    exact ⟨fromFile, read, .inl ⟨fault, checked, rfl⟩⟩

theorem load_dialect_none {text : String}
    (given : overrides.dialect = some text)
    (unknown : ∀ engine : Engine, ¬ engine.IsCalled text) :
    load file { overrides with dialect := none } = load file overrides := by
  have none : (Engine.parse text).toOption = none :=
    Option.eq_none_iff_forall_ne_some.mpr fun engine parsed =>
      unknown engine (Engine.toOption_parse_eq_some_iff.mp parsed)
  simp only [load, Overrides.apply, given, Option.bind_some,
    Option.bind_none, none]

theorem load_translateErrors_none {text : String}
    (given : overrides.translateErrors = some text)
    (unknown : ∀ value, ¬ IsSwitch value text) :
    load file { overrides with translateErrors := none } =
      load file overrides := by
  have none : switchOfText? text = none :=
    Option.eq_none_iff_forall_ne_some.mpr fun value read =>
      unknown value (switchOfText?_eq_some_iff.mp read)
  simp only [load, Overrides.apply, given, Option.bind_some,
    Option.bind_none, none]

theorem validate_default : ({} : Settings).validate = .ok () := by
  decide +kernel

theorem loadOrDefault_cases (file : Option String) (overrides : Overrides) :
    load file overrides = .ok (loadOrDefault file overrides) ∨
      (∃ failure, load file overrides = .error failure) ∧
        loadOrDefault file overrides = {} := by
  rw [loadOrDefault]
  cases load file overrides with
  | ok settings => exact .inl rfl
  | error failure => exact .inr ⟨⟨failure, rfl⟩, rfl⟩

theorem validate_loadOrDefault :
    (loadOrDefault file overrides).validate = .ok () := by
  obtain loaded | ⟨_, isDefault⟩ := loadOrDefault_cases file overrides
  · exact (load_eq_ok_iff.mp loaded).2
  · rw [isDefault, validate_default]

/-- Loading takes settings from their layers field by field, and
takes them whole. -/
structure LoadsInLayers (file : Option String)
    (overrides : Overrides) : Prop where
  loaded : ∀ settings, load file overrides = .ok settings ↔
    Layered file overrides settings ∧ settings.validate = .ok ()
  failed : ∀ failure, load file overrides = .error failure ↔
    (failure = .malformedFile ∧
      ∃ text, file = some text ∧ ∀ layer : Layer, ¬ layer.OfFile (some text)) ∨
      ∃ settings fault, Layered file overrides settings ∧
        settings.validate = .error fault ∧
        failure = .invalid fault
  /-- A word for no engine is as good as none. -/
  dialectIgnored : ∀ text, overrides.dialect = some text →
    (∀ engine : Engine, ¬ engine.IsCalled text) →
      load file { overrides with dialect := none } = load file overrides
  /-- A word for no position of a switch is as good as none. -/
  switchIgnored : ∀ text, overrides.translateErrors = some text →
    (∀ value, ¬ IsSwitch value text) →
      load file { overrides with translateErrors := none } = load file overrides
  /-- After a failure nothing of the file or of the environment is left. -/
  orDefault : load file overrides = .ok (loadOrDefault file overrides) ∨
    (∃ failure, load file overrides = .error failure) ∧
      loadOrDefault file overrides = {}
  valid : (loadOrDefault file overrides).validate = .ok ()

theorem loads_in_layers (file : Option String) (overrides : Overrides) :
    LoadsInLayers file overrides where
  loaded _ := load_eq_ok_iff
  failed _ := by rw [load_eq_error_iff, Layer.forall_not_ofFile_iff]
  dialectIgnored _ := load_dialect_none
  switchIgnored _ := load_translateErrors_none
  orDefault := loadOrDefault_cases file overrides
  valid := validate_loadOrDefault

/-- A variable that is set can break what a valid file says. -/
example :
    (load (some "date_format = '%d.%m.%Y'") {}).toOption =
        some { dateFormat := "%d.%m.%Y" } ∧
      loadOrDefault (some "date_format = '%d.%m.%Y'")
        { sequenceFunction := some "a b" } = {} := by
  decide +kernel

/-- It can also mend what is not valid in the file. -/
example :
    loadOrDefault (some "dialect = 'mysql'\ndate_format = ''") {} = {} ∧
      loadOrDefault (some "dialect = 'mysql'\ndate_format = ''")
          { dateFormat := some "%d.%m.%Y", dialect := some "oracle" } =
        { engine := .mysql, dateFormat := "%d.%m.%Y" } := by
  decide +kernel

end Settings

end RecordSql
