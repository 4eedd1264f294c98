import RecordSql.Decoding
import RecordSql.Proofs.Calendar.Iso
import RecordSql.Proofs.Text
import RecordSql.Settings

/-!
# Dates and datetimes in columns

With the formats that settings have by default, what is bound to a column of
dates or of datetimes is read back from it as the same date, or as the same
datetime to whole seconds.
-/

namespace RecordSql

private theorem isoChars_starts (date : Date) (rest : List Char) :
    ∃ first more, date.isoChars ++ rest = first :: more ∧
      Text.isBlank first = false := by
  obtain ⟨first, more, written, shown⟩ := yearChars_starts date.year
  exact ⟨first, more ++ '-' :: twoDigits date.month ++
    '-' :: twoDigits date.day ++ rest, by simp [Date.isoChars, written], shown⟩

private theorem append_twoDigits_ends (before : List Char) (value : Nat) :
    ∃ init last, before ++ twoDigits value = init ++ [last] ∧
      Text.isBlank last = false := by
  obtain ⟨init, last, written, shown⟩ := twoDigits_ends value
  exact ⟨before ++ init, last, by rw [written, List.append_assoc], shown⟩

private theorem trimChars_isoDate (date : Date) :
    Text.trimChars date.isoChars = date.isoChars := by
  have starts := isoChars_starts date []
  rw [List.append_nil] at starts
  have ends := append_twoDigits_ends
    (yearChars date.year ++ '-' :: twoDigits date.month ++ ['-']) date.day
  rw [List.append_assoc _ ['-']] at ends
  exact Text.trimChars_eq_self starts ends

private theorem trimChars_isoDateTime (date : Date) (time : Time) :
    Text.trimChars (date.isoChars ++ ' ' :: time.wholeSecondChars) =
      date.isoChars ++ ' ' :: time.wholeSecondChars := by
  have ends :=
    append_twoDigits_ends (date.isoChars ++ ' ' :: twoDigits time.hour ++
      ':' :: twoDigits time.minute ++ [':']) time.shownSecond
  refine Text.trimChars_eq_self (isoChars_starts date _) ?_
  simpa [Time.wholeSecondChars] using ends

namespace Formats

theorem default_eq :
    ({} : Settings).formats = ⟨some .isoDate, some .isoDateTime⟩ := by
  rw [Settings.formats, ofTexts, Pattern.ofText?_isoDate,
    Pattern.ofText?_isoDateTime]

theorem dateText_default (date : Date) :
    ({} : Settings).formats.dateText date = date.text := by
  simp [default_eq, dateText, Pattern.renderDate?_isoDate]

theorem dateTimeText_default (datetime : DateTime) :
    ({} : Settings).formats.dateTimeText datetime =
      String.ofList
        (datetime.date.isoChars ++ ' ' :: datetime.time.wholeSecondChars) := by
  simp [default_eq, dateTimeText, Pattern.renderDateTime?_isoDateTime]

private theorem read?_of_trimmed {formats : Formats} {text : List Char}
    (trimmed : Text.trimChars text = text)
    (starts : ∃ first more, text = first :: more ∧ Text.isBlank first = false) :
    formats.read? (String.ofList text) = formats.readTrimmed? text := by
  obtain ⟨first, more, rfl, _⟩ := starts
  simp [read?, trimmed]

/-- The pattern of datetimes is tried first and does not take a date for one. -/
theorem read?_dateText (date : Date) :
    ({} : Settings).formats.read? (({} : Settings).formats.dateText date) =
      some (.atMidnight date) := by
  have starts := isoChars_starts date []
  rw [List.append_nil] at starts
  rw [dateText_default, Date.text,
    read?_of_trimmed (trimChars_isoDate date) starts]
  simp [default_eq, readTrimmed?, Pattern.readDateTime?_of_isoDate,
    Pattern.readDate?_isoDate]

theorem read?_dateTimeText (datetime : DateTime) :
    ({} : Settings).formats.read?
        (({} : Settings).formats.dateTimeText datetime) =
      some datetime.wholeSeconds := by
  obtain ⟨date, time⟩ := datetime
  rw [dateTimeText_default,
    read?_of_trimmed (trimChars_isoDateTime date time) (isoChars_starts date _)]
  simp [default_eq, readTrimmed?,
    Pattern.readDateTime?_isoDateTime ⟨date, time⟩]

theorem decode_date (formats : Formats) {type : String}
    (declared : baseType type = "date") (text : String) :
    formats.decode (.text text) type = formats.dateValue (.text text) := by
  simp [decode, decodeBase, declared]

theorem decode_dateTime (formats : Formats) {type : String}
    (declared : baseType type ∈ ["datetime", "timestamp"]) (text : String) :
    formats.decode (.text text) type = formats.dateTimeValue (.text text) := by
  simp only [List.mem_cons, List.not_mem_nil, or_false] at declared
  rcases declared with datetime | timestamp
  · simp [decode, decodeBase, datetime]
  · simp [decode, decodeBase, timestamp]

/-- What is bound for a value is a text, and a column whose declared type has
one of these base names gives it back as a value of its own. -/
def ReadsBack (formats : Formats) (column : Column) (value : Value)
    (bases : List String) (back : Value) : Prop :=
  ∃ text, formats.bind value column = .ok (.text text) ∧
    ∀ type, baseType type ∈ bases → formats.decode (.text text) type = back

private theorem readsBack_dateTime {column : Column}
    (kind : column.kind = .dateTime) (datetime : DateTime) :
    ({} : Settings).formats.ReadsBack column
      (.dateTime datetime) ["datetime", "timestamp"]
      (.dateTime datetime.wholeSeconds) := by
  refine ⟨({} : Settings).formats.dateTimeText datetime, ?_, ?_⟩
  · simp [bind, kind, dateTimeColumnText, plainText]
  · intro type declared
    simp only [decode_dateTime _ declared, dateTimeValue, read?_dateTimeText]

private theorem readsBack_date {column : Column} (kind : column.kind = .date)
    (date : Date) :
    ({} : Settings).formats.ReadsBack column (.date date) ["date"]
      (.date date) := by
  refine ⟨({} : Settings).formats.dateText date, ?_, ?_⟩
  · simp [bind, kind, dateColumnText]
  · intro type declared
    simp only [decode_date _ (List.mem_singleton.mp declared), dateValue,
      read?_dateText]
    rfl

/-- A column of datetimes takes a date for its midnight. -/
private theorem bind_date_dateTime (formats : Formats) {column : Column}
    (kind : column.kind = .dateTime) (date : Date) :
    formats.bind (.date date) column =
      formats.bind (.dateTime (.atMidnight date)) column := by
  simp [bind, kind, dateTimeColumnText, plainText]

/-- A column of dates takes a datetime for its date. -/
private theorem bind_dateTime_date (formats : Formats) {column : Column}
    (kind : column.kind = .date) (datetime : DateTime) :
    formats.bind (.dateTime datetime) column =
      formats.bind (.date datetime.date) column := by
  simp [bind, kind, dateColumnText]

/-- In every year, a datetime comes back from a column of datetimes to whole
seconds and a date as its midnight; a date comes back from a column of dates,
and a datetime as its date. -/
theorem readsBack_temporal (column : Column) (date : Date)
    (datetime : DateTime) :
    let formats := ({} : Settings).formats
    (column.kind = .dateTime →
      formats.ReadsBack column (.dateTime datetime) ["datetime", "timestamp"]
          (.dateTime datetime.wholeSeconds) ∧
        formats.ReadsBack column (.date date) ["datetime", "timestamp"]
          (.dateTime (.atMidnight date))) ∧
      (column.kind = .date →
        formats.ReadsBack column (.date date) ["date"] (.date date) ∧
          formats.ReadsBack column (.dateTime datetime) ["date"]
            (.date datetime.date)) := by
  intro formats
  constructor
  · intro kind
    refine ⟨readsBack_dateTime kind datetime, ?_⟩
    have midnight := readsBack_dateTime kind (.atMidnight date)
    rw [DateTime.wholeSeconds_atMidnight] at midnight
    rw [ReadsBack, bind_date_dateTime formats kind]
    exact midnight
  · intro kind
    refine ⟨readsBack_date kind date, ?_⟩
    rw [ReadsBack, bind_dateTime_date formats kind]
    exact readsBack_date kind datetime.date

/-- The last leap second of the calendar, in a column of datetimes and
in one of dates. -/
theorem readsBack_temporal_leapSecond :
    let formats := ({} : Settings).formats
    let last : Date := ⟨262142, 12, 31, by decide⟩
    let leap : DateTime := ⟨last, 23, 59, 59, 1999999999, by decide⟩
    let moment : Column :=
      .ofDeclared ⟨"moment", "timestamp", true, false, none⟩
    let day : Column := .ofDeclared ⟨"day", "date", true, false, none⟩
    (moment.kind = .dateTime ∧
        formats.ReadsBack moment (.dateTime leap) ["datetime", "timestamp"]
          (.dateTime ⟨last, 23, 59, 59, 1000000000, by decide⟩)) ∧
      day.kind = .date ∧
      formats.ReadsBack day (.dateTime leap) ["date"] (.date last) := by
  intro formats last leap moment day
  have isMoment : moment.kind = .dateTime := by decide +kernel
  have isDay : day.kind = .date := by decide +kernel
  have whole : leap.wholeSeconds =
      ⟨last, 23, 59, 59, 1000000000, by decide⟩ := by
    decide +kernel
  refine ⟨⟨isMoment, ?_⟩, isDay, ((readsBack_temporal day last leap).2 isDay).2⟩
  rw [← whole]
  exact ((readsBack_temporal moment last leap).1 isMoment).1

end Formats

end RecordSql
