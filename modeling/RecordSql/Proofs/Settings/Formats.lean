import RecordSql.Proofs.Calendar.Rendering
import RecordSql.Proofs.Outcome
import RecordSql.Settings

/-!
# Settings and the texts of dates

Settings are valid when both of their formats are patterns.  That a pattern can
be written for the values it is meant for is not checked: the format of dates
may ask for a time of day, and both may ask for a zone.  Then all values are
written in international notation.
-/

namespace RecordSql.Settings

variable {settings : Settings} {pattern : Pattern}

theorem checkFormat_eq_ok_iff {field format : String} :
    checkFormat field format = .ok () ↔
      Text.isAllBlank format = false ∧
        ∃ pattern, Pattern.ofText? format = some pattern := by
  rw [checkFormat]
  cases blank : Text.isAllBlank format with
  | true => simp
  | false => cases read : Pattern.ofText? format <;> simp

theorem checkSequenceFunction_eq_ok_iff {function : String} :
    checkSequenceFunction function = .ok () ↔
      Text.isPlainWord function = true := by
  rw [checkSequenceFunction]
  split <;> simp_all

theorem validate_eq_ok_iff :
    settings.validate = .ok () ↔
      (Text.isAllBlank settings.dateFormat = false ∧
          ∃ pattern, Pattern.ofText? settings.dateFormat = some pattern) ∧
        (Text.isAllBlank settings.dateTimeFormat = false ∧
          ∃ pattern, Pattern.ofText? settings.dateTimeFormat = some pattern) ∧
        Text.isPlainWord settings.sequenceFunction = true := by
  rw [validate]
  simp only [Outcome.bind_eq_ok_iff, checkSequenceFunction_eq_ok_iff]
  constructor
  · rintro ⟨_, date, _, dateTime, function⟩
    exact ⟨checkFormat_eq_ok_iff.mp date,
      checkFormat_eq_ok_iff.mp dateTime, function⟩
  · rintro ⟨date, dateTime, function⟩
    exact ⟨_, checkFormat_eq_ok_iff.mpr date, _,
      checkFormat_eq_ok_iff.mpr dateTime, function⟩

/-- Every date is written by the format of dates. -/
def HonoursDates (settings : Settings) : Prop :=
  ∀ date, ∃ pattern, Pattern.ofText? settings.dateFormat = some pattern ∧
    pattern.Writes date none (settings.formats.dateText date)

/-- Every datetime is written by the format of datetimes. -/
def HonoursDateTimes (settings : Settings) : Prop :=
  ∀ datetime, ∃ pattern,
    Pattern.ofText? settings.dateTimeFormat = some pattern ∧
      pattern.Writes datetime.date (some datetime.time)
        (settings.formats.dateTimeText datetime)

theorem dateText_eq (read : Pattern.ofText? settings.dateFormat = some pattern)
    (date : Date) :
    settings.formats.dateText date =
      (pattern.renderDate? date).getD date.text := by
  rw [Formats.dateText, formats, Formats.ofTexts, read, Option.bind_some]

theorem dateTimeText_eq
    (read : Pattern.ofText? settings.dateTimeFormat = some pattern)
    (datetime : DateTime) : settings.formats.dateTimeText datetime =
      (pattern.renderDateTime? datetime).getD
        (Formats.wholeSecondText datetime) := by
  rw [Formats.dateTimeText, formats, Formats.ofTexts, read, Option.bind_some]

private theorem writes_dateText_iff
    (read : Pattern.ofText? settings.dateFormat = some pattern) (date : Date) :
    pattern.Writes date none (settings.formats.dateText date) ↔
      pattern.IsOfDates := by
  rw [← Pattern.renderDate?_eq_some_iff, ← Pattern.isSome_renderDate?_iff date,
    dateText_eq read]
  cases pattern.renderDate? date <;> simp

private theorem writes_dateTimeText_iff
    (read : Pattern.ofText? settings.dateTimeFormat = some pattern)
    (datetime : DateTime) :
    pattern.Writes datetime.date (some datetime.time)
      (settings.formats.dateTimeText datetime) ↔ pattern.IsOfDateTimes := by
  rw [← Pattern.renderDateTime?_eq_some_iff,
    ← Pattern.isSome_renderDateTime?_iff datetime, dateTimeText_eq read]
  cases pattern.renderDateTime? datetime <;> simp

/-- What one date shows holds of all. -/
theorem honoursDates_iff
    (read : Pattern.ofText? settings.dateFormat = some pattern) :
    settings.HonoursDates ↔ pattern.IsOfDates := by
  constructor
  · intro honoured
    obtain ⟨other, readOther, written⟩ := honoured ⟨1, 1, 1, by decide⟩
    obtain rfl := Option.some.inj (read.symm.trans readOther)
    exact (writes_dateText_iff read _).mp written
  · intro suits date
    exact ⟨pattern, read, (writes_dateText_iff read date).mpr suits⟩

theorem honoursDateTimes_iff
    (read : Pattern.ofText? settings.dateTimeFormat = some pattern) :
    settings.HonoursDateTimes ↔ pattern.IsOfDateTimes := by
  constructor
  · intro honoured
    obtain ⟨other, readOther, written⟩ :=
      honoured ⟨⟨1, 1, 1, by decide⟩, .midnight⟩
    obtain rfl := Option.some.inj (read.symm.trans readOther)
    exact (writes_dateTimeText_iff read _).mp written
  · intro suits datetime
    exact ⟨pattern, read, (writes_dateTimeText_iff read datetime).mpr suits⟩

private theorem dateText_of_not_isOfDates
    (read : Pattern.ofText? settings.dateFormat = some pattern)
    (unsuited : ¬ pattern.IsOfDates) (date : Date) :
    settings.formats.dateText date = date.text := by
  rw [← Pattern.isSome_renderDate?_iff date, Option.not_isSome_iff_eq_none]
    at unsuited
  rw [dateText_eq read, unsuited, Option.getD_none]

private theorem dateTimeText_of_not_isOfDateTimes
    (read : Pattern.ofText? settings.dateTimeFormat = some pattern)
    (unsuited : ¬ pattern.IsOfDateTimes) (datetime : DateTime) :
    settings.formats.dateTimeText datetime =
      Formats.wholeSecondText datetime := by
  rw [← Pattern.isSome_renderDateTime?_iff datetime,
    Option.not_isSome_iff_eq_none] at unsuited
  rw [dateTimeText_eq read, unsuited, Option.getD_none]

/-- Valid settings have patterns for both formats.  The format of dates is
honoured if and only if its pattern asks for nothing but the date, and the
format of datetimes if and only if its pattern asks for no zone.
Otherwise no value is written by the format, and all are written in
international notation. -/
theorem honours_iff (valid : settings.validate = .ok ()) :
    ∃ datePattern dateTimePattern,
      Pattern.ofText? settings.dateFormat = some datePattern ∧
        Pattern.ofText? settings.dateTimeFormat = some dateTimePattern ∧
        (settings.HonoursDates ↔ datePattern.IsOfDates) ∧
        (settings.HonoursDateTimes ↔ dateTimePattern.IsOfDateTimes) ∧
        (¬ datePattern.IsOfDates →
          ∀ date, settings.formats.dateText date = date.text) ∧
        (¬ dateTimePattern.IsOfDateTimes → ∀ datetime,
          settings.formats.dateTimeText datetime =
            Formats.wholeSecondText datetime) := by
  obtain ⟨⟨_, datePattern, readDate⟩, ⟨_, dateTimePattern, readDateTime⟩, _⟩ :=
    validate_eq_ok_iff.mp valid
  exact ⟨datePattern, dateTimePattern, readDate, readDateTime,
    honoursDates_iff readDate, honoursDateTimes_iff readDateTime,
    dateText_of_not_isOfDates readDate,
    dateTimeText_of_not_isOfDateTimes readDateTime⟩

/-- Days before months, names of weekdays, a clock of twelve hours
and milliseconds. -/
theorem honours_iff_clock :
    let settings : Settings :=
      { dateFormat := "%d/%m/%Y", dateTimeFormat :=
        "%A %e %B %Y %I:%M:%S%.3f %p" }
    settings.validate = .ok () ∧ settings.HonoursDates ∧
        settings.HonoursDateTimes := by
  intro settings
  have valid : settings.validate = .ok () := by decide +kernel
  obtain ⟨datePattern, dateTimePattern, readDate, readDateTime, dates,
    dateTimes, _⟩ :=
    honours_iff valid
  have suitDates : ∀ pattern ∈ Pattern.ofText? settings.dateFormat,
      pattern.IsOfDates := by
    decide +kernel
  have suitDateTimes : ∀ pattern ∈ Pattern.ofText? settings.dateTimeFormat,
      pattern.IsOfDateTimes := by
    decide +kernel
  exact ⟨valid, dates.mpr (suitDates _ readDate),
    dateTimes.mpr (suitDateTimes _ readDateTime)⟩

/-- Formats of which the one asks a date for its hour and the other a
datetime for its zone. -/
theorem not_honours_zone :
    let settings : Settings :=
      { dateFormat := "%d/%m/%Y %H:%M", dateTimeFormat :=
        "%Y-%m-%dT%H:%M:%S%z" }
    let date : Date := ⟨2024, 3, 1, by decide⟩
    settings.validate = .ok () ∧ ¬ settings.HonoursDates ∧
      ¬ settings.HonoursDateTimes ∧
      settings.formats.dateText date = "2024-03-01" ∧
      settings.formats.dateTimeText (.atMidnight date) =
        "2024-03-01 00:00:00" := by
  intro settings date
  have askTime : ∀ pattern ∈ Pattern.ofText? settings.dateFormat,
      ¬ pattern.IsOfDates := by
    decide +kernel
  have askZone : ∀ pattern ∈ Pattern.ofText? settings.dateTimeFormat,
      ¬ pattern.IsOfDateTimes := by
    decide +kernel
  refine ⟨by decide +kernel, ?_, ?_, by decide +kernel, by decide +kernel⟩
  · intro honoured
    obtain ⟨pattern, read, _⟩ := honoured date
    exact askTime pattern read ((honoursDates_iff read).mp honoured)
  · intro honoured
    obtain ⟨pattern, read, _⟩ := honoured (.atMidnight date)
    exact askZone pattern read ((honoursDateTimes_iff read).mp honoured)

end RecordSql.Settings
