import RecordSql.Formats
import RecordSql.Proofs.Calendar.Fields
import RecordSql.Proofs.Calendar.Numbers

/-!
# International notation by patterns

The patterns of international notation write a date and a time to whole seconds
in this notation, and read them back.
-/

namespace RecordSql

/-- The items of a date. -/
def PatternItem.isoDate : List PatternItem :=
  [.number .year .zero, .literal '-', .number .month .zero, .literal '-',
    .number .day .zero]

/-- The items of a time to whole seconds. -/
def PatternItem.isoTime : List PatternItem :=
  [.number .hour .zero, .literal ':', .number .minute .zero, .literal ':',
    .number .second .zero]

namespace Pattern

/-- The pattern of a date. -/
def isoDate : Pattern := ⟨PatternItem.isoDate⟩

/-- The pattern of a datetime to whole seconds. -/
def isoDateTime : Pattern :=
  ⟨PatternItem.isoDate ++ .blank ' ' :: PatternItem.isoTime⟩

theorem ofText?_isoDate : ofText? "%Y-%m-%d" = some isoDate := by decide

theorem ofText?_isoDateTime :
    ofText? "%Y-%m-%d %H:%M:%S" = some isoDateTime := by
  decide

end Pattern

/-- A time to whole seconds in international notation. -/
def Time.wholeSecondChars (time : Time) : List Char :=
  twoDigits time.hour ++ ':' :: twoDigits time.minute ++
    ':' :: twoDigits time.shownSecond

namespace Pattern

theorem renderDate?_isoDate (date : Date) :
    isoDate.renderDate? date = some date.text := by
  obtain ⟨_, month, _, day⟩ := date.bounds
  have writtenMonth := PatternItem.columnPair_zero date.month (by omega)
  have writtenDay := PatternItem.columnPair_zero date.day (by omega)
  simp [renderDate?, isoDate, PatternItem.isoDate, renderItems?,
    PatternItem.render?, PatternItem.numberField?,
    PatternItem.yearNumberChars_zero, writtenMonth, writtenDay, Date.text,
    Date.isoChars]

theorem renderDateTime?_isoDateTime (datetime : DateTime) :
    isoDateTime.renderDateTime? datetime =
      some (String.ofList
        (datetime.date.isoChars ++ ' ' :: datetime.time.wholeSecondChars)) := by
  obtain ⟨date, time⟩ := datetime
  obtain ⟨_, month, _, day⟩ := date.bounds
  obtain ⟨hour, minute, _⟩ := time.valid
  have second := time.shownSecond_le
  have writtenMonth := PatternItem.columnPair_zero date.month (by omega)
  have writtenDay := PatternItem.columnPair_zero date.day (by omega)
  have writtenHour := PatternItem.columnPair_zero time.hour (by omega)
  have writtenMinute := PatternItem.columnPair_zero time.minute (by omega)
  have writtenSecond := PatternItem.columnPair_zero time.shownSecond (by omega)
  simp [renderDateTime?, isoDateTime, PatternItem.isoDate, PatternItem.isoTime,
    renderItems?, PatternItem.render?, PatternItem.numberField?,
    PatternItem.yearNumberChars_zero, writtenMonth, writtenDay, writtenHour,
    writtenMinute, writtenSecond, Date.isoChars, Time.wholeSecondChars]

end Pattern

private theorem endsDigits_cons {character : Char} {rest : List Char}
    (other : character.isDigit = false) : EndsDigits (character :: rest) := by
  rintro _ ⟨⟩
  exact other

private theorem dropBlanks_append {text : List Char} (rest : List Char)
    (starts : ∃ first more, text = first :: more ∧ Text.isBlank first = false) :
    Text.dropBlanks (text ++ rest) = text ++ rest := by
  obtain ⟨first, more, rfl, shown⟩ := starts
  simp [Text.dropBlanks, shown]

namespace CalendarFields

variable {fields : CalendarFields} {rest : List Char}

theorem readNumber?_year {year : Int} (unread : fields.year = none)
    (bounded : (year.natAbs : Int) ≤ Number.greatestInt64)
    (ends : EndsDigits rest) :
    fields.readNumber? .year (yearChars year ++ rest) =
      some ({ fields with year := some year }, rest) := by
  have start := dropBlanks_append rest (yearChars_starts year)
  simp [readNumber?, start, Reading.year?_yearChars bounded ends, setYear?,
    unread, agree?]

/-- Two digits are read as the field they stand for. -/
theorem readNumber?_twoDigits {field : NumberField} {value : Nat}
    (plain : field ∈ [.month, .day, .hour, .minute, .second])
    (below : value < 100) : fields.readNumber? field (twoDigits value ++ rest) =
      (fields.setNumber? field value).map fun fields => (fields, rest) := by
  have asNumber : fields.readNumber? field (twoDigits value ++ rest) =
      (Reading.number? 1 2
        (Text.dropBlanks (twoDigits value ++ rest))).bind fun read =>
        (fields.setNumber? field read.1).bind fun fields =>
            some (fields, read.2) := by
    simp only [List.mem_cons, List.not_mem_nil, or_false] at plain
    rcases plain with rfl | rfl | rfl | rfl | rfl <;> rfl
  rw [asNumber, dropBlanks_append rest (twoDigits_starts value),
    Reading.number?_twoDigits below, Option.map_eq_bind]
  rfl

theorem readItems?_isoTime (date : Date) (time : Time)
    (items : List PatternItem) (rest : List Char) :
    (ofDate date).readItems? (PatternItem.isoTime ++ items)
        (time.wholeSecondChars ++ rest) =
      ((ofDate date).withTime time).readItems? items rest := by
  obtain ⟨hours, minutes, _⟩ := time.valid
  have seconds := time.shownSecond_le
  have hour := fun fields rest =>
    @readNumber?_twoDigits fields rest .hour time.hour (by simp) (by omega)
  have minute := fun fields rest =>
    @readNumber?_twoDigits fields rest .minute time.minute (by simp) (by omega)
  have second := fun fields rest =>
    @readNumber?_twoDigits fields rest .second time.shownSecond
      (by simp) (by omega)
  simp [PatternItem.isoTime, Time.wholeSecondChars, readItems?, readItem?, hour,
    minute, second, Reading.after?, setNumber?, setHour?, setHalf?,
    setHourOfHalf?, setMinute?, setSecond?, between?, agree?,
    Nat.le_of_lt_succ hours, Nat.le_of_lt_succ minutes, seconds,
    withTime, ofDate]

/-- A signed year is read as far as there are digits, and the hyphen after it
ends them. -/
theorem readItems?_isoDate (date : Date) (items : List PatternItem)
    (rest : List Char) :
    ({} : CalendarFields).readItems? (PatternItem.isoDate ++ items)
        (date.isoChars ++ rest) =
      (ofDate date).readItems? items rest := by
  obtain ⟨leastMonth, mostMonth, leastDay, mostDay⟩ := date.bounds
  have bounded : (date.year.natAbs : Int) ≤ Number.greatestInt64 := by
    have valid := date.valid
    unfold Number.greatestInt64
    omega
  have year := @readNumber?_year {} ('-' :: (twoDigits date.month ++ '-' ::
    (twoDigits date.day ++ rest))) date.year rfl bounded
    (endsDigits_cons (by decide))
  have month := fun fields rest =>
    @readNumber?_twoDigits fields rest .month date.month (by simp) (by omega)
  have day := fun fields rest =>
    @readNumber?_twoDigits fields rest .day date.day (by simp) (by omega)
  simp [PatternItem.isoDate, Date.isoChars, readItems?, readItem?, year,
    Reading.after?, month, day, setNumber?, setMonth?, setDay?, between?,
    agree?, leastMonth, mostMonth, leastDay, mostDay, ofDate]

end CalendarFields

namespace Pattern

open CalendarFields

theorem readDate?_isoDate (date : Date) :
    isoDate.readDate? date.isoChars = some date := by
  have read := readItems?_isoDate date [] []
  rw [List.append_nil, List.append_nil] at read
  simp [readDate?, isoDate, read, readItems?, date?_ofDate, Except.toOption]

theorem readDateTime?_isoDateTime (datetime : DateTime) :
    isoDateTime.readDateTime?
        (datetime.date.isoChars ++ ' ' :: datetime.time.wholeSecondChars) =
      some datetime.wholeSeconds := by
  obtain ⟨date, time⟩ := datetime
  have blank : Text.dropBlanks (' ' :: time.wholeSecondChars) =
      time.wholeSecondChars := by
    change Text.dropBlanks time.wholeSecondChars = time.wholeSecondChars
    rw [Time.wholeSecondChars, List.append_assoc]
    exact dropBlanks_append _ (twoDigits_starts time.hour)
  have read := readItems?_isoTime date time [] []
  rw [List.append_nil, List.append_nil] at read
  simp [readDateTime?, isoDateTime, readItems?_isoDate, readItems?, readItem?,
    blank, read, dateTime?_withTime]

/-- A date alone is no datetime, for the hour is missing. -/
theorem readDateTime?_of_isoDate (date : Date) :
    isoDateTime.readDateTime? date.isoChars = none := by
  have read := readItems?_isoDate date (.blank ' ' :: PatternItem.isoTime) []
  rw [List.append_nil] at read
  simp only [readDateTime?, isoDateTime, read]
  rfl

end Pattern

end RecordSql
