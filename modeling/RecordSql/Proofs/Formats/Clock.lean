import RecordSql.Proofs.Number.Numerals

/-!
# Clocks and halves of the day

A clock is read just when it is one, and whatever follows a fourth colon in it
goes unread.  The letters of a half of the day are told from it in any case, and
the hour on a clock of twelve hours says the hour of the day with them.
-/

namespace RecordSql

open Number

namespace Timestamp

variable {text : List Char} {parts : ClockParts}

/-- A clock as it is read: what follows a fourth colon does not matter. -/
def ReadableClock (text : List Char) (parts : ClockParts) : Prop :=
  Clock text parts ∨ OverfullClock text parts

/-- Parts that are numbers of 32 bits. -/
structure ClockParts.Fit (parts : ClockParts) : Prop where
  hour : parts.hour < 4294967296
  minute : parts.minute < 4294967296
  second : parts.second < 4294967296
  millisecond : parts.millisecond < 4294967296

/-- Fields beyond the fourth are in the text, but no condition is on them. -/
theorem readableClock_of_clockParts? (read : clockParts? text = some parts) :
    ReadableClock text parts := by
  have whole := Text.intercalate_splitOn ':' text
  simp only [clockParts?, Option.bind_eq_bind, Option.bind_eq_some_iff,
    Option.pure_def, Option.some.injEq] at read
  obtain ⟨first, isFirst, hour, hours, minute, minutes, second, seconds,
    millisecond, milliseconds, rfl⟩ := read
  have hours := (nat32?_eq_some_iff.mp hours).1
  rcases cut : Text.splitOn (· == ':') text with
    _ | ⟨h, _ | ⟨m, _ | ⟨s, _ | ⟨ms, _ | ⟨surplus, rest⟩⟩⟩⟩⟩
  all_goals
    rw [cut] at whole isFirst minutes seconds milliseconds
    simp only [optionalPart?, List.getElem?_cons_zero, List.getElem?_cons_succ,
      List.getElem?_nil, Option.some.injEq]
      at isFirst minutes seconds milliseconds
  · cases isFirst
  all_goals
    subst isFirst
    simp only [List.intercalate_cons_cons, List.intercalate_singleton,
      List.append_assoc, List.singleton_append] at whole
    rw [← whole]
  · subst minutes seconds milliseconds
    exact .inl (.hour hours)
  · subst seconds milliseconds
    have minutes := (nat32?_eq_some_iff.mp minutes).1
    exact .inl (.minute hours minutes)
  · subst milliseconds
    have minutes := (nat32?_eq_some_iff.mp minutes).1
    have seconds := (nat32?_eq_some_iff.mp seconds).1
    exact .inl (.second hours minutes seconds)
  all_goals
    have minutes := (nat32?_eq_some_iff.mp minutes).1
    have seconds := (nat32?_eq_some_iff.mp seconds).1
    have milliseconds := (nat32?_eq_some_iff.mp milliseconds).1
  · exact .inl (.millisecond hours minutes seconds milliseconds)
  · exact .inr (.surplus hours minutes seconds milliseconds _)

theorem colon_not_mem {value : Nat} (numeral : Numeral text value) :
    ':' ∉ text :=
  numeral.not_mem ⟨rfl, by decide⟩

theorem clockParts?_of_readable (clock : ReadableClock text parts)
    (fit : parts.Fit) : clockParts? text = some parts := by
  obtain ⟨hourFits, minuteFits, secondFits, millisecondFits⟩ := fit
  rcases clock with (hours | ⟨hours, minutes⟩ | ⟨hours, minutes, seconds⟩ |
    ⟨hours, minutes, seconds, milliseconds⟩) |
    ⟨hours, minutes, seconds, milliseconds, rest⟩
  all_goals
    have readHour := nat32?_eq_some_iff.mpr ⟨hours, hourFits⟩
    have cutHour := Text.splitOn_append_mark (colon_not_mem hours)
  · simp [clockParts?, Text.splitOn_of_free (colon_not_mem hours),
      optionalPart?, readHour]
  all_goals
    have readMinute := nat32?_eq_some_iff.mpr ⟨minutes, minuteFits⟩
    have cutMinute := Text.splitOn_append_mark (colon_not_mem minutes)
  · simp [clockParts?, cutHour, Text.splitOn_of_free (colon_not_mem minutes),
      optionalPart?, readHour, readMinute]
  all_goals
    have readSecond := nat32?_eq_some_iff.mpr ⟨seconds, secondFits⟩
    have cutSecond := Text.splitOn_append_mark (colon_not_mem seconds)
  · simp [clockParts?, cutHour, cutMinute,
      Text.splitOn_of_free (colon_not_mem seconds), optionalPart?, readHour,
      readMinute, readSecond]
  all_goals
    have readMillisecond :=
      nat32?_eq_some_iff.mpr ⟨milliseconds, millisecondFits⟩
    have cutMillisecond := Text.splitOn_append_mark (colon_not_mem milliseconds)
  · simp [clockParts?, cutHour, cutMinute, cutSecond,
      Text.splitOn_of_free (colon_not_mem milliseconds), optionalPart?,
      readHour, readMinute, readSecond, readMillisecond]
  · simp [clockParts?, cutHour, cutMinute, cutSecond, cutMillisecond,
      optionalPart?, readHour, readMinute, readSecond, readMillisecond]

theorem clockParts?_upperAsciiChars (text : List Char) :
    clockParts? (Text.upperAsciiChars text) = clockParts? text := by
  have fields := @Text.splitOn_upperAsciiChars ':' rfl text
  have optional : ∀ index,
      optionalPart?
          ((Text.splitOn (· == ':') text).map Text.upperAsciiChars) index =
        optionalPart? (Text.splitOn (· == ':') text) index := by
    intro index
    unfold optionalPart?
    rw [List.getElem?_map]
    cases (Text.splitOn (· == ':') text)[index]? with
    | none => rfl
    | some field => exact nat32?_upperAsciiChars field
  simp only [clockParts?, fields, optional, List.getElem?_map,
    Option.bind_eq_bind, Option.bind_map, Function.comp_def,
    nat32?_upperAsciiChars]

theorem Clock.plain (clock : Clock text parts) :
    ∀ character ∈ text, character.isAlpha = false := by
  have colon : ':'.isAlpha = false := rfl
  cases clock with
  | hour hours => exact hours.plain
  | minute hours minutes =>
      simp only [List.forall_mem_append, List.forall_mem_cons]
      exact ⟨hours.plain, colon, minutes.plain⟩
  | second hours minutes seconds =>
      simp only [List.forall_mem_append, List.forall_mem_cons]
      exact ⟨hours.plain, colon, minutes.plain, colon, seconds.plain⟩
  | millisecond hours minutes seconds milliseconds =>
      simp only [List.forall_mem_append, List.forall_mem_cons]
      exact ⟨hours.plain, colon, minutes.plain, colon, seconds.plain, colon,
        milliseconds.plain⟩

theorem count_colon {value : Nat} (numeral : Numeral text value) :
    text.count ':' = 0 :=
  List.count_eq_zero_of_not_mem (colon_not_mem numeral)

theorem Clock.count_colon_le (clock : Clock text parts) :
    text.count ':' ≤ 3 := by
  cases clock with
  | hour hours => simp [count_colon hours]
  | minute hours minutes => simp [count_colon hours, count_colon minutes]
  | second hours minutes seconds =>
      simp [count_colon hours, count_colon minutes, count_colon seconds]
  | millisecond hours minutes seconds milliseconds =>
      simp [count_colon hours, count_colon minutes, count_colon seconds,
        count_colon milliseconds]

theorem OverfullClock.lt_count_colon (clock : OverfullClock text parts) :
    3 < text.count ':' := by
  obtain ⟨hours, minutes, seconds, milliseconds, rest⟩ := clock
  simp only [List.count_append, List.count_cons_self]
  omega

theorem splitMeridiem_append (word : List Char) (half : DayHalf) :
    splitMeridiem (word ++ half.letters) = (word, some half.letters) := by
  cases half <;> simp [splitMeridiem, DayHalf.letters]

theorem splitMeridiem_of_bare {word : List Char}
    (bare : ∀ before half, word ≠ before ++ DayHalf.letters half) :
    splitMeridiem word = (word, none) := by
  have whole := List.take_append_drop (word.length - 2) word
  refine if_neg ?_
  rintro (morning | afternoon)
  · rw [morning] at whole
    exact bare _ .morning whole.symm
  · rw [afternoon] at whole
    exact bare _ .afternoon whole.symm

theorem hourWith?_letters (half : DayHalf) (hour : Nat) :
    hourWith? (some half.letters) hour = some (half.hourOfDay hour) := by
  cases half <;> rfl

theorem exists_half_of_hourWith? {word : List Char} {hour hourOfDay : Nat}
    (read : hourWith? (some word) hour = some hourOfDay) :
    ∃ half, word = DayHalf.letters half ∧ hourOfDay = half.hourOfDay hour := by
  unfold hourWith? at read
  split at read
  · next nothing => cases nothing
  · next afternoon =>
      exact ⟨.afternoon, Option.some.inj afternoon, (Option.some.inj read).symm⟩
  · next morning =>
      exact ⟨.morning, Option.some.inj morning, (Option.some.inj read).symm⟩
  · cases read

/-- The hour of the day is not much before the hour on the clock. -/
theorem le_of_hourWith? {meridiem : Option (List Char)} {hour hourOfDay : Nat}
    (read : hourWith? meridiem hour = some hourOfDay) :
    hour ≤ hourOfDay + 12 := by
  cases meridiem with
  | none =>
      cases read
      exact Nat.le_add_right _ _
  | some word =>
      obtain ⟨half, rfl, rfl⟩ := exists_half_of_hourWith? read
      cases half <;> (unfold DayHalf.hourOfDay; dsimp only; split_ifs <;> omega)

end Timestamp

theorem DayHalf.IsWord.count_colon {half : DayHalf} {letters : List Char}
    (meridiem : half.IsWord letters) : letters.count ':' = 0 := by
  apply List.count_eq_zero_of_not_mem
  intro member
  have raised : ':' ∈ half.letters := by
    rw [← meridiem]
    exact List.mem_map_of_mem member
  cases half <;> simp [DayHalf.letters] at raised

/-- The hour on a clock of twelve hours, with the half of the day, is the
hour of the day. -/
theorem Time.hourOfDay_clockHour (time : Time) :
    time.half.hourOfDay time.clockHour = time.hour := by
  have hours := time.valid.1
  unfold half isAfternoon clockHour
  by_cases afternoon : 12 ≤ time.hour
  · simp only [afternoon, decide_true, if_true, DayHalf.hourOfDay]
    split_ifs <;> omega
  · simp only [afternoon, decide_false, Bool.false_eq_true, if_false,
      DayHalf.hourOfDay]
    split_ifs <;> omega

end RecordSql
