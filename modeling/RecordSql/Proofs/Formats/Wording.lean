import RecordSql.Proofs.Formats.Unnumbered
import RecordSql.Proofs.Formats.Words

/-!
# Timestamps in words in columns

With the formats that settings have by default, a column of datetimes takes the
text that a server writes for a datetime as this datetime.  A text with no
number at its start that says no datetime in words is kept as it is, unless its
time has a fourth colon: what follows that goes unread.
-/

namespace RecordSql

theorem Calendar.StartsAsMonth.unnumbered {word : List Char} {month : Nat}
    (starts : StartsAsMonth word month) {others : List (List Char)}
    {text : List Char} (spaced : Text.Spaced (word :: others) text) :
    ¬ Text.StartsAsNumber text := by
  obtain ⟨letter, rest, rfl, isAlpha⟩ := starts.exists_cons
  rintro ⟨first, isFirst, numbered⟩
  rw [spaced.head?_dropBlanks] at isFirst
  obtain rfl := Option.some.inj isFirst
  rcases numbered with digit | rfl | rfl
  · rw [Text.isAlpha_of_isDigit digit] at isAlpha
    cases isAlpha
  · cases isAlpha
  · cases isAlpha

namespace Timestamp

variable {text : List Char} {datetime : DateTime}

theorem Clock.bare {word : List Char} {parts : ClockParts}
    (clock : Clock word parts) :
    ∀ before letters half, word = before ++ letters →
      ¬ DayHalf.IsWord half letters := by
  rintro before letters half rfl isWord
  have plain := (List.forall_mem_append.mp clock.plain).2
  rw [DayHalf.IsWord, Text.upperAsciiChars_eq_self plain] at isWord
  subst isWord
  cases half <;> simp [DayHalf.letters] at plain

theorem ServerTime.saysTime {words : List (List Char)} {time : Time}
    (milliseconds : time.nanosecond % 1000000 = 0)
    (written : ServerTime words time) : SaysTime Clock words time := by
  have whole : time.nanosecond = time.nanosecond / 1000000 * 1000000 := by omega
  cases written with
  | whole clock => exact .whole clock.bare clock ⟨rfl, rfl, rfl, whole⟩
  | attached meridiem clock =>
      exact .attached meridiem clock
        ⟨time.hourOfDay_clockHour.symm, rfl, rfl, whole⟩
  | apart meridiem clock =>
      exact .apart meridiem clock
        ⟨time.hourOfDay_clockHour.symm, rfl, rfl, whole⟩

theorem InServerStyle.inWords
    (milliseconds : datetime.time.nanosecond % 1000000 = 0)
    (written : InServerStyle text datetime) : InWords Clock text datetime := by
  obtain ⟨month, day, year, time, spaced, isMonth, isDay, isYear, isTime⟩ :=
    written
  exact ⟨month, day, year, time, spaced, ⟨.inl isMonth, isDay, isYear⟩,
    isTime.saysTime milliseconds⟩

theorem SaysTime.mono {form other : List Char → ClockParts → Prop}
    (weaker : ∀ {word parts}, form word parts → other word parts)
    {words : List (List Char)} {time : Time} (said : SaysTime form words time) :
    SaysTime other words time := by
  cases said with
  | whole bare clock tells => exact .whole bare (weaker clock) tells
  | attached meridiem clock tells =>
      exact .attached meridiem (weaker clock) tells
  | apart meridiem clock tells => exact .apart meridiem (weaker clock) tells

theorem saysTime_readable_iff {words : List (List Char)} {time : Time} :
    SaysTime ReadableClock words time ↔
      SaysTime Clock words time ∨ SaysTime OverfullClock words time := by
  constructor
  · intro said
    cases said with
    | whole bare clock tells =>
        exact clock.imp (.whole bare · tells) (.whole bare · tells)
    | attached meridiem clock tells =>
        exact clock.imp (.attached meridiem · tells)
          (.attached meridiem · tells)
    | apart meridiem clock tells =>
        exact clock.imp (.apart meridiem · tells) (.apart meridiem · tells)
  · rintro (said | said)
    · exact said.mono .inl
    · exact said.mono .inr

theorem inWords_readable_iff :
    InWords ReadableClock text datetime ↔
      InWords Clock text datetime ∨ InWords OverfullClock text datetime := by
  simp only [InWords, saysTime_readable_iff, and_or_left, exists_or]

/-- The colons of a time are those of its clock. -/
theorem SaysTime.exists_clock {form : List Char → ClockParts → Prop}
    {words : List (List Char)} {time : Time} (said : SaysTime form words time) :
    ∃ word parts, form word parts ∧
      words.flatten.count ':' = word.count ':' := by
  cases said with
  | whole bare clock tells => exact ⟨_, _, clock, by simp⟩
  | attached meridiem clock tells =>
      exact ⟨_, _, clock, by simp [meridiem.count_colon]⟩
  | apart meridiem clock tells =>
      exact ⟨_, _, clock, by simp [meridiem.count_colon]⟩

theorem InWords.count_colon_le {month day year : List Char}
    {time : List (List Char)} (said : InWords Clock text datetime)
    (cut : Text.words text = month :: day :: year :: time) :
    time.flatten.count ':' ≤ 3 := by
  obtain ⟨_, _, _, words, spaced, _, isTime⟩ := said
  obtain ⟨rfl, rfl, rfl, rfl⟩ : _ ∧ _ ∧ _ ∧ words = time := by
    simpa using spaced.words_eq.symm.trans cut
  obtain ⟨word, parts, clock, count⟩ := isTime.exists_clock
  rw [count]
  exact clock.count_colon_le

theorem InWords.not_overfull {other : DateTime}
    (said : InWords Clock text datetime) :
    ¬ InWords OverfullClock text other := by
  rintro ⟨month, day, year, time, spaced, _, isTime⟩
  obtain ⟨word, parts, clock, count⟩ := isTime.exists_clock
  have few := said.count_colon_le spaced.words_eq
  have many := clock.lt_count_colon
  omega

/-- A text of the grammar is read as what it says, and no other text is read.
A text that does not start as a number is decoded as it stands if it is not
of the grammar. -/
structure KeepsToGrammar (text : String) : Prop where
  reads : ∀ datetime,
    ofMonthDayYear? text.toList = some datetime ↔
      InWords Clock text.toList datetime
  keeps : ¬ Text.StartsAsNumber text.toList →
    (∀ datetime, ¬ InWords Clock text.toList datetime) →
    ∀ type, baseType type ∈ ["date", "datetime", "timestamp"] →
      ({} : Settings).formats.decode (.text text) type = .string text

end Timestamp

namespace Formats

open Timestamp

/-- What a server writes for a datetime to whole milliseconds, be it a leap
second, is decoded as this datetime. -/
theorem decode_of_serverStyle {text : String} {datetime : DateTime}
    (written : InServerStyle text.toList datetime)
    (milliseconds : datetime.time.nanosecond % 1000000 = 0) {type : String}
    (declared : baseType type ∈ ["datetime", "timestamp"]) :
    ({} : Settings).formats.decode (.text text) type = .dateTime datetime := by
  have unnumbered : ¬ Text.StartsAsNumber text.toList := by
    obtain ⟨_, _, _, _, spaced, isMonth, _⟩ := written
    exact isMonth.unnumbered spaced
  have read : ({} : Settings).formats.read? text = some datetime := by
    rw [read?_of_unnumbered unnumbered, ofMonthDayYear?_eq_some_iff,
      inWords_readable_iff]
    exact .inl (written.inWords milliseconds)
  rw [decode_dateTime _ declared, dateTimeValue, read]

/-- A leap second in the first hour of a day, in a year before our era. -/
theorem decode_of_serverStyle_leapSecond :
    let text := " jUNebug\n30,  -0044\t12:59:59:1500\u3000aM"
    let leap : DateTime :=
      ⟨⟨-44, 6, 30, by decide⟩, 0, 59, 59, 1500000000, by decide⟩
    InServerStyle text.toList leap ∧ leap.time.nanosecond % 1000000 = 0 ∧
      baseType "DATETIME(3)" ∈ ["datetime", "timestamp"] ∧
      ({} : Settings).formats.decode (.text text) "DATETIME(3)" =
        .dateTime leap := by
  intro text leap
  have numeral : ∀ digits value, Number.nat32? digits = some value →
      Number.Numeral digits value :=
    fun _ _ read => (Number.nat32?_eq_some_iff.mp read).1
  have isYear : Number.int32? ['-', '0', '0', '4', '4'] = some (-44) := by
    decide
  have clock : Clock "12:59:59:1500".toList ⟨12, 59, 59, 1500⟩ :=
    .millisecond (numeral ['1', '2'] 12 rfl) (numeral ['5', '9'] 59 rfl)
      (numeral ['5', '9'] 59 rfl) (numeral ['1', '5', '0', '0'] 1500 rfl)
  have day : Calendar.IsDay "30,".toList 30 :=
    ⟨['3', '0'], [','], rfl, by simp, numeral _ 30 rfl⟩
  have spaced : Text.words text.toList =
      ["jUNebug".toList, "30,".toList, "-0044".toList,
        "12:59:59:1500".toList, "aM".toList] := by
    decide +kernel
  have told : (⟨12, 59, 59, 1500⟩ : ClockParts) =
      ⟨leap.time.clockHour, leap.time.minute, leap.time.second,
        leap.time.nanosecond / 1000000⟩ := by
    decide +kernel
  rw [told] at clock
  have milliseconds : leap.time.nanosecond % 1000000 = 0 := by decide +kernel
  have written : InServerStyle text.toList leap :=
    ⟨_, _, _, _, Text.words_eq_iff.mp spaced, ⟨by decide, by decide, by decide⟩,
      day, (Number.int32?_eq_some_iff.mp isYear).1, .apart rfl clock⟩
  have declared : baseType "DATETIME(3)" ∈ ["datetime", "timestamp"] := by
    decide +kernel
  exact ⟨written, milliseconds, declared,
    decode_of_serverStyle written milliseconds declared⟩

theorem decode_of_unread {formats : Formats} {text : String}
    (unread : formats.read? text = none) {type : String}
    (declared : baseType type ∈ ["date", "datetime", "timestamp"]) :
    formats.decode (.text text) type = .string text := by
  rcases List.mem_cons.mp declared with date | dateTime
  · rw [decode_date _ date, dateValue, unread]
  · rw [decode_dateTime _ dateTime, dateTimeValue, unread]

/-- The grammar is kept for every text but those that say a time with a
fourth colon in it. -/
theorem keepsToGrammar_iff (text : String) :
    KeepsToGrammar text ↔
      ∀ datetime, ¬ InWords OverfullClock text.toList datetime := by
  constructor
  · rintro ⟨reads, _⟩ datetime overfull
    have read : ofMonthDayYear? text.toList = some datetime := by
      rw [ofMonthDayYear?_eq_some_iff, inWords_readable_iff]
      exact .inr overfull
    exact ((reads datetime).mp read).not_overfull overfull
  · intro notOverfull
    have reads : ∀ datetime,
        ofMonthDayYear? text.toList = some datetime ↔
          InWords Clock text.toList datetime := by
      intro datetime
      rw [ofMonthDayYear?_eq_some_iff, inWords_readable_iff,
        or_iff_left (notOverfull datetime)]
    refine ⟨reads, ?_⟩
    intro unnumbered other type declared
    have unread : ({} : Settings).formats.read? text = none := by
      rw [read?_of_unnumbered unnumbered, Option.eq_none_iff_forall_ne_some]
      exact fun datetime read => other datetime ((reads datetime).mp read)
    exact decode_of_unread unread declared

/-- Whatever follows a fourth colon goes unread. -/
theorem not_keepsToGrammar_fifthField :
    let text := "Jan 15 2024 3:04:05:000:junk"
    let read : DateTime := ⟨⟨2024, 1, 15, by decide⟩, 3, 4, 5, 0, by decide⟩
    ({} : Settings).formats.decode (.text text) "datetime" = .dateTime read ∧
      ¬ KeepsToGrammar text := by
  intro text read
  have isRead : ofMonthDayYear? text.toList = some read := by decide +kernel
  have cut : Text.words text.toList =
      ["Jan".toList, "15".toList, "2024".toList,
        "3:04:05:000:junk".toList] := by
    decide +kernel
  refine ⟨by decide +kernel, fun keeps => ?_⟩
  have few := InWords.count_colon_le ((keeps.reads read).mp isRead) cut
  exact absurd few (by decide)

end Formats

end RecordSql
