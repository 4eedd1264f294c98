import RecordSql.Calendar.Fields

/-!
# Fields of a date and a time

Year, month and day determine a date again, and hour, minute and second a
time to whole seconds.
-/

namespace RecordSql

private theorem length_le_31 :
    ∀ leap : Bool, ∀ index < 12, (monthLengths leap).getD index 0 ≤ 31 := by
  decide

theorem Date.bounds (date : Date) :
    1 ≤ date.month ∧ date.month ≤ 12 ∧ 1 ≤ date.day ∧ date.day ≤ 31 := by
  obtain ⟨year, month, day, _, _, positive, within⟩ := date
  cases month with
  | zero => exact absurd (Nat.le_trans positive within) (Nat.not_succ_le_zero 0)
  | succ index =>
      rw [daysInMonth] at within
      rcases Nat.lt_or_ge index 12 with listed | beyond
      · have short := length_le_31 (isLeapYear year) index listed
        dsimp only
        omega
      · rw [List.getD_eq_getElem?_getD, List.getElem?_eq_none beyond] at within
        exact absurd (Nat.le_trans positive within) (Nat.not_succ_le_zero 0)

theorem Date.ofYearMonthDay?_eq_some_iff {year : Int} {month day : Nat}
    {date : Date} : ofYearMonthDay? year month day = some date ↔
      date.year = year ∧ date.month = month ∧ date.day = day := by
  constructor
  · intro made
    unfold ofYearMonthDay? at made
    split at made
    · cases made
      exact ⟨rfl, rfl, rfl⟩
    · cases made
  · rintro ⟨rfl, rfl, rfl⟩
    exact dif_pos date.valid

theorem Time.of?_eq_some_iff {hour minute second nanosecond : Nat}
    {time : Time} : of? hour minute second nanosecond = some time ↔
      time.hour = hour ∧ time.minute = minute ∧ time.second = second ∧
        time.nanosecond = nanosecond := by
  constructor
  · intro made
    unfold of? at made
    split at made
    · cases made
      exact ⟨rfl, rfl, rfl, rfl⟩
    · cases made
  · rintro ⟨rfl, rfl, rfl, rfl⟩
    exact dif_pos time.valid

/-- A time without its fraction of a second; a leap second stays one. -/
def Time.wholeSeconds (time : Time) : Time where
  hour := time.hour
  minute := time.minute
  second := time.second
  nanosecond := time.nanosecond / nanosPerSecond * nanosPerSecond
  valid := by
    have valid := time.valid
    unfold nanosPerSecond
    omega

/-- A datetime without its fraction of a second. -/
def DateTime.wholeSeconds (datetime : DateTime) : DateTime :=
  ⟨datetime.date, datetime.time.wholeSeconds⟩

theorem Time.shownSecond_wholeSeconds (time : Time) :
    time.wholeSeconds.shownSecond = time.shownSecond := by
  simp only [shownSecond, wholeSeconds, nanosPerSecond]
  omega

theorem Time.shownNanosecond_wholeSeconds (time : Time) :
    time.wholeSeconds.shownNanosecond = 0 := by
  unfold shownNanosecond wholeSeconds
  exact Nat.mul_mod_left _ _

theorem DateTime.wholeSeconds_atMidnight (date : Date) :
    (atMidnight date).wholeSeconds = atMidnight date := by
  simp only [wholeSeconds, atMidnight, Time.wholeSeconds, Time.midnight,
    Nat.zero_div, Nat.zero_mul]

/-- A second is shown above 59 only if it is a leap second. -/
theorem Time.shownSecond_le (time : Time) : time.shownSecond ≤ 60 := by
  have valid := time.valid
  unfold shownSecond nanosPerSecond
  omega

namespace CalendarFields

/-- The fields of a date. -/
def ofDate (date : Date) : CalendarFields :=
  { year := some date.year, month := some date.month, day := some date.day }

/-- Fields with those of a time to whole seconds. -/
def withTime (fields : CalendarFields) (time : Time) : CalendarFields :=
  { fields with
    half := some (time.hour / 12)
    hourOfHalf := some (time.hour % 12)
    minute := some time.minute
    second := some time.shownSecond }

theorem date?_ofDate (date : Date) : (ofDate date).date? = .ok date := by
  have found : Date.ofYearMonthDay? date.year date.month date.day = some date :=
    Date.ofYearMonthDay?_eq_some_iff.mpr ⟨rfl, rfl, rfl⟩
  simp [date?, ofDate, resolveYear, settled, found, bind, Except.bind,
    fitsIsoWeek, fitsDayOfYear, matchesGiven, fitsCentury]

theorem date?_withTime (date : Date) (time : Time) :
    ((ofDate date).withTime time).date? = .ok date :=
  date?_ofDate date

/-- A time is read from its fields if the nanoseconds are those that are shown:
second 60 is read as second 59 with one more second in nanoseconds. -/
theorem time?_withTime_of_shown (fields : CalendarFields) (time : Time)
    (shown : fields.nanosecond.getD 0 = time.shownNanosecond) :
    (fields.withTime time).time? = .ok time := by
  have leapOnly := time.valid.2.2.2.2
  have hour : 12 * (time.hour / 12) + time.hour % 12 = time.hour :=
    Nat.div_add_mod _ _
  have made : Time.of? time.hour time.minute time.second time.nanosecond =
      some time :=
    Time.of?_eq_some_iff.mpr ⟨rfl, rfl, rfl, rfl⟩
  have parts :
    nanosPerSecond * (time.nanosecond / nanosPerSecond) + time.shownNanosecond =
      time.nanosecond := Nat.div_add_mod _ _
  by_cases leap : time.nanosecond < nanosPerSecond
  · have whole : time.nanosecond / nanosPerSecond = 0 := Nat.div_eq_of_lt leap
    have second : time.shownSecond = time.second := by
      rw [Time.shownSecond, whole, Nat.add_zero]
    have below : time.second ≠ 60 := by
      have valid := time.valid
      omega
    rw [whole, Nat.mul_zero, Nat.zero_add] at parts
    simp [time?, shown, withTime, second, below, hour, parts, made]
  · have whole : time.nanosecond / nanosPerSecond = 1 := by
      have valid := time.valid
      unfold nanosPerSecond at leap ⊢
      omega
    have last : time.second = 59 := leapOnly.resolve_left leap
    have second : time.shownSecond = 60 := by rw [Time.shownSecond, whole, last]
    rw [whole, Nat.mul_one] at parts
    rw [last] at made
    simp [time?, shown, withTime, second, hour, parts, made]

theorem time?_withTime (fields : CalendarFields) (time : Time)
    (noFraction : fields.nanosecond = none) :
    (fields.withTime time).time? = .ok time.wholeSeconds := by
  have same : fields.withTime time = fields.withTime time.wholeSeconds := by
    simp only [withTime, Time.shownSecond_wholeSeconds]
    rfl
  rw [same]
  apply time?_withTime_of_shown
  rw [noFraction, Time.shownNanosecond_wholeSeconds]
  rfl

theorem dateTime?_of_date_time {fields : CalendarFields} {date : Date}
    {time : Time} (isDate : fields.date? = .ok date)
    (isTime : fields.time? = .ok time) (noTimestamp : fields.timestamp = none) :
    fields.dateTime? = some ⟨date, time⟩ := by
  simp [dateTime?, isDate, isTime, fitsTimestamp, noTimestamp]

theorem dateTime?_withTime (date : Date) (time : Time) :
    ((ofDate date).withTime time).dateTime? =
      some (DateTime.wholeSeconds ⟨date, time⟩) :=
  dateTime?_of_date_time (date?_withTime date time)
    (time?_withTime _ time rfl) rfl

/-- The fields of a datetime, without the nanoseconds if they are none. -/
def ofDateTime (datetime : DateTime) : CalendarFields :=
  let nanosecond := datetime.time.shownNanosecond
  { ofDate datetime.date with
    nanosecond := if nanosecond = 0 then none else some nanosecond }.withTime
      datetime.time

theorem dateTime?_ofDateTime (datetime : DateTime) :
    (ofDateTime datetime).dateTime? = some datetime := by
  obtain ⟨date, time⟩ := datetime
  refine dateTime?_of_date_time (date?_ofDate date)
    (time?_withTime_of_shown _ time ?_) rfl
  dsimp only
  split
  · next whole => rw [Option.getD_none, whole]
  · rfl

end CalendarFields

end RecordSql
