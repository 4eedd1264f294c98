import RecordSql.Proofs.Calendar.Iso

/-!
# Datetimes as they are exchanged

A datetime is exchanged with the letter T before its time and with as much of a
fraction as it has.  One pattern of international notation reads all of it back.
The patterns with a space find no hour after it, and without a zone offset it is
no internet timestamp.
-/

namespace RecordSql

open Number

variable {nanosecond : Nat}

theorem Reading.fraction?_padLeft {width value : Nat} (positive : 0 < width)
    (most : width ≤ 9) (fits : value < Nat.pow 10 width) :
    fraction? (padLeft width '0' (digitChars value)) =
      some (value * Nat.pow 10 (9 - width), []) := by
  have full := length_padLeft positive fits
  have read := @number?_digits [] _ 1 9
    (fun _ => @isDigit_of_mem_padLeft width value _) padLeft_ne_nil
    (by omega) (by omega) (.inr nofun)
  rw [List.append_nil, ofDigitChars_padLeft] at read
  simp [fraction?, read, full]

namespace CalendarFields

variable {fields : CalendarFields}

private theorem readFraction?_padLeft {width : Nat} (positive : 0 < width)
    (most : width ≤ 9) (below : nanosecond < nanosPerSecond)
    (exact : nanosecond % Nat.pow 10 (9 - width) = 0)
    (unread : fields.nanosecond = none) :
    fields.readFraction? ('.' ::
        padLeft width '0' (digitChars (nanosecond / Nat.pow 10 (9 - width)))) =
      some ({ fields with nanosecond := some nanosecond }, []) := by
  have whole : nanosecond / Nat.pow 10 (9 - width) * Nat.pow 10 (9 - width) =
      nanosecond :=
    Nat.div_mul_cancel (Nat.dvd_of_mod_eq_zero exact)
  have fits : nanosecond / Nat.pow 10 (9 - width) < Nat.pow 10 width := by
    apply Nat.div_lt_of_lt_mul
    have power : Nat.pow 10 (9 - width) * Nat.pow 10 width =
        nanosPerSecond := by
      rw [Nat.pow_eq, Nat.pow_eq, ← Nat.pow_add, Nat.sub_add_cancel most]
      rfl
    rwa [power]
  have read := Reading.fraction?_padLeft positive most fits
  rw [whole] at read
  simp only [readFraction?, read, Option.bind_eq_bind, Option.bind_some,
    setNanosecond?, unread, agree?, Option.pure_def]

/-- However many digits a fraction is written with, it is read back. -/
theorem readFraction?_fractionChars (below : nanosecond < nanosPerSecond)
    (unread : fields.nanosecond = none) :
    fields.readFraction? (fractionChars nanosecond) =
      some ({ fields with nanosecond :=
        if nanosecond = 0 then none else some nanosecond }, []) := by
  unfold fractionChars
  split_ifs with zero milliseconds microseconds
  · rw [← unread]
    rfl
  · exact @readFraction?_padLeft _ _ 3
      (by decide) (by decide) below milliseconds unread
  · exact @readFraction?_padLeft _ _ 6
      (by decide) (by decide) below microseconds unread
  · have read := @readFraction?_padLeft _ _ 9 (by decide) (by decide) below
      (Nat.mod_one nanosecond) unread
    have whole : nanosecond / Nat.pow 10 (9 - 9) = nanosecond :=
      Nat.div_one nanosecond
    rwa [whole] at read

end CalendarFields

theorem Time.isoChars_eq (time : Time) :
    time.isoChars =
      time.wholeSecondChars ++ fractionChars time.shownNanosecond :=
  rfl

namespace Pattern

open CalendarFields

/-- The pattern of a datetime with its fraction, if it has any,
after a separator. -/
def isoPrecise (separator : PatternItem) : Pattern :=
  ⟨PatternItem.isoDate ++
    separator :: (PatternItem.isoTime ++ [.word .fraction])⟩

theorem isoDateTimePatterns_eq :
    Timestamp.isoDateTimePatterns =
      isoPrecise (.blank ' ') :: isoPrecise (.literal 'T') ::
        Timestamp.isoDateTimePatterns.drop 2 := by
  decide

theorem readDateTime?_isoPrecise (datetime : DateTime) :
    (isoPrecise (.literal 'T')).readDateTime? (datetime.isoChars 'T') =
      some datetime := by
  obtain ⟨date, time⟩ := datetime
  have below : time.shownNanosecond < nanosPerSecond := Nat.mod_lt _ (by decide)
  have fraction :=
    @readFraction?_fractionChars _ ((ofDate date).withTime time) below rfl
  have read : ({} : CalendarFields).readItems? (isoPrecise (.literal 'T')).items
      (DateTime.isoChars 'T' ⟨date, time⟩) =
      some (ofDateTime ⟨date, time⟩) := by
    rw [isoPrecise, DateTime.isoChars, Time.isoChars_eq, readItems?_isoDate]
    simp only [readItems?, readItem?, Reading.after?, if_true, Option.map_some,
      readItems?_isoTime, readWord?, fraction]
    rfl
  rw [readDateTime?, read]
  exact dateTime?_ofDateTime ⟨date, time⟩

/-- After a date and a blank, or none, a pattern wants the hour. -/
theorem readDateTime?_of_letter (date : Date) (items : List PatternItem)
    (rest : List Char) :
    readDateTime? ⟨PatternItem.isoDate ++
      .blank ' ' :: .number .hour .zero :: items⟩
      (date.isoChars ++ 'T' :: rest) = none := by
  have noHour : (ofDate date).readNumber? .hour ('T' :: rest) = none := rfl
  have noBlank : Text.dropBlanks ('T' :: rest) = 'T' :: rest := rfl
  simp only [readDateTime?, readItems?_isoDate, readItems?, readItem?,
    noBlank, noHour]

/-- A date pattern leaves nothing over. -/
theorem readDate?_of_longer (date : Date) (first : Char) (rest : List Char) :
    isoDate.readDate? (date.isoChars ++ first :: rest) = none := by
  have read := readItems?_isoDate date [] (first :: rest)
  rw [List.append_nil] at read
  simp only [readDate?, isoDate, read, readItems?]

end Pattern

namespace CalendarFields

variable {fields : CalendarFields} {rest : List Char}

theorem readFixed?_twoDigits {field : NumberField} {value : Nat}
    (below : value < 100) :
    fields.readFixed? field 2 (twoDigits value ++ rest) =
      (fields.setNumber? field value).map fun fields => (fields, rest) := by
  have read : Reading.number? 2 2 (twoDigits value ++ rest) =
      some (value, rest) :=
    Reading.number?_padLeft (by decide) (by decide) below
  rw [readFixed?, read, Option.map_eq_bind]
  rfl

/-- A year with a sign is not read, for its digits are counted. -/
private theorem readFixed?_year (year : Int) :
    (∀ rest, fields.readFixed? .year 4 (yearChars year ++ rest) = none) ∨
      ∀ rest, fields.readFixed? .year 4 (yearChars year ++ rest) =
        (fields.setYear? year).map fun fields => (fields, rest) := by
  unfold yearChars
  split
  · next short =>
      have fits : year.natAbs < Nat.pow 10 4 := by
        have power : Nat.pow 10 4 = 10000 := rfl
        omega
      have same : (year.natAbs : Int) = year := by omega
      right
      intro rest
      have read :
        Reading.number? 4 4 (padLeft 4 '0' (digitChars year.natAbs) ++ rest) =
          some (year.natAbs, rest) :=
            Reading.number?_padLeft (by decide) (by decide) fits
      rw [readFixed?, read, Option.map_eq_bind, ← same]
      rfl
  · left
    intro rest
    have noDigits : ∀ text,
        Reading.number? 4 4 (signChar year :: text) = none := by
      intro text
      unfold signChar
      split <;> rfl
    simp only [readFixed?, List.cons_append, noDigits]
    rfl

/-- A datetime without a zone offset is no internet timestamp. -/
theorem readInternet?_isoChars (datetime : DateTime) :
    readInternet? (datetime.isoChars 'T') = none := by
  obtain ⟨date, time⟩ := datetime
  obtain ⟨leastMonth, mostMonth, leastDay, mostDay⟩ := date.bounds
  obtain ⟨hours, minutes, _⟩ := time.valid
  have seconds := time.shownSecond_le
  have month := fun fields rest =>
    @readFixed?_twoDigits fields rest .month date.month (by omega)
  have day := fun fields rest =>
    @readFixed?_twoDigits fields rest .day date.day (by omega)
  have hour := fun fields rest =>
    @readFixed?_twoDigits fields rest .hour time.hour (by omega)
  have minute := fun fields rest =>
    @readFixed?_twoDigits fields rest .minute time.minute (by omega)
  have second := fun fields rest =>
    @readFixed?_twoDigits fields rest .second time.shownSecond (by omega)
  have below : time.shownNanosecond < nanosPerSecond := Nat.mod_lt _ (by decide)
  have fraction := fun fields => @readFraction?_fractionChars _ fields below
  have noOffset : Reading.offset? (Reading.after? ':') true false [] = none :=
    rfl
  simp only [DateTime.isoChars, Date.isoChars, Time.isoChars_eq,
    Time.wholeSecondChars, List.append_assoc, List.cons_append]
  rcases @readFixed?_year {} date.year with unread | year
  · simp [readInternet?, unread]
  · simp [readInternet?, year, month, day, hour, minute, second, fraction,
      noOffset, setYear?, setNumber?, setMonth?, setDay?, setHour?, setHalf?,
      setHourOfHalf?, setMinute?, setSecond?, between?, agree?, Reading.after?,
      afterDate?, leastMonth, mostMonth, leastDay, mostDay,
      Nat.le_of_lt_succ hours, Nat.le_of_lt_succ minutes, seconds]

end CalendarFields

end RecordSql
