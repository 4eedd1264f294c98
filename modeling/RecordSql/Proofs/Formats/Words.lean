import RecordSql.Proofs.Calendar.Fields
import RecordSql.Proofs.Formats.Clock
import RecordSql.Proofs.Text.Words

/-!
# Dates and times in words

Four or five words are read as a datetime just when they say it, with a clock
as clocks are read.
-/

namespace RecordSql

open Number

namespace Calendar

variable {word : List Char} {month : Nat}

private theorem findIdx?_monthNames :
    ∀ index < 12,
      (monthNames.findIdx? fun name => (shortName name).map Char.toLower ==
        (shortName (nameAt monthNames index)).map Char.toLower) =
        some index := by
  decide

private theorem any_isAlpha_head_monthNames :
    ∀ index < 12,
      (((shortName (nameAt monthNames index)).map Char.toLower).head?.any
        Char.isAlpha) = true := by
  decide

theorem StartsAsMonth.exists_cons (starts : StartsAsMonth word month) :
    ∃ first rest, word = first :: rest ∧ first.isAlpha = true := by
  obtain ⟨least, most, same⟩ := starts
  have letter := any_isAlpha_head_monthNames (month - 1) (by omega)
  rw [← same] at letter
  cases word with
  | nil => cases letter
  | cons first rest =>
      refine ⟨first, rest, rfl, ?_⟩
      cases plain : first.isAlpha with
      | true => rfl
      | false =>
          have lowered : first.toLower.isAlpha = true := letter
          rw [Text.toLower_eq_self plain, plain] at lowered
          cases lowered

theorem StartsAsMonth.nat32?_eq_none (starts : StartsAsMonth word month) :
    nat32? word = none := by
  obtain ⟨first, rest, rfl, letter⟩ := starts.exists_cons
  rw [Option.eq_none_iff_forall_ne_some]
  intro value read
  have plain := (nat32?_eq_some_iff.mp read).1.plain first List.mem_cons_self
  rw [letter] at plain
  cases plain

end Calendar

namespace Timestamp

theorem month?_eq_some_iff {word : List Char} {month : Nat} :
    month? word = some month ↔ Calendar.IsMonth word month := by
  constructor
  · intro read
    unfold month? at read
    split at read
    · next number isNumber =>
        split_ifs at read with within
        cases read
        exact .inr ⟨(nat32?_eq_some_iff.mp isNumber).1, within⟩
    · next noNumber =>
        obtain ⟨index, found, rfl⟩ := Option.map_eq_some_iff.mp read
        obtain ⟨listed, same, _⟩ := List.findIdx?_eq_some_iff_getElem.mp found
        have below : index < 12 := listed
        refine .inl ⟨by omega, by omega, ?_⟩
        rw [Calendar.nameAt, Nat.add_sub_cancel, List.getD_eq_getElem?_getD,
          List.getElem?_eq_getElem listed]
        exact (beq_iff_eq.mp same).symm
  · rintro (starts | ⟨numeral, least, most⟩)
    · have noNumber := starts.nat32?_eq_none
      obtain ⟨least, most, same⟩ := starts
      have found := Calendar.findIdx?_monthNames (month - 1) (by omega)
      rw [month?, noNumber]
      dsimp only
      rw [same, found, Option.map_some, Nat.sub_add_cancel least]
    · have read := nat32?_eq_some_iff.mpr ⟨numeral, by omega⟩
      rw [month?, read]
      exact if_pos ⟨least, most⟩

theorem day?_eq_some_iff {word : List Char} {day : Nat} :
    nat32? (Text.dropTrailing (· == ',') word) = some day ↔
      Calendar.IsDay word day ∧ day < 4294967296 := by
  rw [nat32?_eq_some_iff]
  constructor
  · rintro ⟨numeral, fits⟩
    obtain ⟨commas, areCommas, whole⟩ :=
      Text.exists_dropTrailing (· == ',') word
    have areCommas : ∀ comma ∈ commas, comma = ',' := by simpa using areCommas
    exact ⟨⟨_, commas, whole, areCommas, numeral⟩, fits⟩
  · rintro ⟨⟨number, commas, rfl, areCommas, numeral⟩, fits⟩
    have ends : ∀ last ∈ number.getLast?, (last == ',') = false := by
      intro last isLast
      have other : ',' ∉ number := numeral.not_mem ⟨rfl, by decide⟩
      exact beq_false_of_ne fun same =>
        other (same ▸ List.mem_of_getLast? isLast)
    rw [Text.dropTrailing_append (by simpa using areCommas) ends]
    exact ⟨numeral, fits⟩

/-- The date of three words. -/
def dateOfWords? (month day year : List Char) : Option Date := do
  let month ← month? month
  let day ← nat32? (Text.dropTrailing (· == ',') day)
  let year ← int32? year
  Date.ofYearMonthDay? year month day

theorem dateOfWords?_eq_some_iff {month day year : List Char} {date : Date} :
    dateOfWords? month day year = some date ↔
      Calendar.SaysDate month day year date := by
  simp only [dateOfWords?, Option.bind_eq_bind, Option.bind_eq_some_iff,
    month?_eq_some_iff, day?_eq_some_iff, int32?_eq_some_iff,
    Date.ofYearMonthDay?_eq_some_iff]
  constructor
  · rintro ⟨_, isMonth, _, ⟨isDay, _⟩, _, ⟨isYear, _⟩, rfl, rfl, rfl⟩
    exact ⟨isMonth, isDay, isYear⟩
  · rintro ⟨isMonth, isDay, isYear⟩
    have bounds := date.bounds
    have valid := date.valid
    exact ⟨_, isMonth, _, ⟨isDay, by omega⟩, _, ⟨isYear, by omega, by omega⟩,
      rfl, rfl, rfl⟩

/-- The time of a clock and a half of the day. -/
def timeOfClock? (clock : List Char) (meridiem : Option (List Char)) :
    Option Time := do
  let parts ← clockParts? clock
  let hour ← hourWith? meridiem parts.hour
  Time.of? hour parts.minute parts.second (parts.millisecond * 1000000)

theorem timeOfClock?_eq_some_iff {clock : List Char}
    {meridiem : Option (List Char)} {time : Time} :
    timeOfClock? clock meridiem = some time ↔
      ∃ parts hour, ReadableClock clock parts ∧
        hourWith? meridiem parts.hour = some hour ∧
        parts.Tells hour time := by
  simp only [timeOfClock?, Option.bind_eq_bind, Option.bind_eq_some_iff,
    Time.of?_eq_some_iff]
  constructor
  · rintro ⟨parts, read, hour, isHour, hours, minutes, seconds, nanoseconds⟩
    exact ⟨parts, hour, readableClock_of_clockParts? read, isHour,
      ⟨hours, minutes, seconds, nanoseconds⟩⟩
  · rintro ⟨parts, hour, readable, isHour, hours, minutes, seconds, nanoseconds⟩
    have near := le_of_hourWith? isHour
    have valid := time.valid
    have fit : parts.Fit := ⟨by omega, by omega, by omega, by omega⟩
    exact ⟨parts, clockParts?_of_readable readable fit, hour, isHour, hours,
      minutes, seconds, nanoseconds⟩

theorem timeOfClock?_upperAsciiChars (clock : List Char)
    (meridiem : Option (List Char)) :
    timeOfClock? (Text.upperAsciiChars clock) meridiem =
      timeOfClock? clock meridiem := by
  rw [timeOfClock?, clockParts?_upperAsciiChars, timeOfClock?]

theorem timeOfClock?_letters_eq_some_iff {clock : List Char} {half : DayHalf}
    {time : Time} : timeOfClock? clock (some half.letters) = some time ↔
      ∃ parts, ReadableClock clock parts ∧
        parts.Tells (half.hourOfDay parts.hour) time := by
  simp only [timeOfClock?_eq_some_iff, hourWith?_letters, Option.some.injEq,
    exists_and_left, exists_eq_left']

/-- The time of a word and of the letters of a half of the day after
it or at its end. -/
def timeOfWords? (word : List Char) (meridiem : Option (List Char)) :
    Option Time :=
  match meridiem with
  | some letters => timeOfClock? (Text.upperAsciiChars word)
      (some (Text.upperAsciiChars letters))
  | none =>
    let (clock, letters) := splitMeridiem (Text.upperAsciiChars word)
    timeOfClock? clock letters

theorem timeOfWords?_append {word letters : List Char} {half : DayHalf}
    (meridiem : half.IsWord letters) :
    timeOfWords? (word ++ letters) none =
      timeOfClock? word (some half.letters) := by
  have raised : Text.upperAsciiChars (word ++ letters) =
      Text.upperAsciiChars word ++ half.letters := by
    rw [← meridiem]
    exact List.map_append
  rw [timeOfWords?, raised, splitMeridiem_append]
  exact timeOfClock?_upperAsciiChars word _

theorem timeOfWords?_of_bare {word : List Char}
    (bare : ∀ before letters half, word = before ++ letters →
      ¬ DayHalf.IsWord half letters) :
    timeOfWords? word none = timeOfClock? word none := by
  have raisedBare : ∀ before half,
      Text.upperAsciiChars word ≠ before ++ DayHalf.letters half := by
    intro before half raised
    obtain ⟨start, letters, rfl, _, isWord⟩ := List.map_eq_append_iff.mp raised
    exact bare start letters half rfl isWord
  rw [timeOfWords?, splitMeridiem_of_bare raisedBare]
  exact timeOfClock?_upperAsciiChars word _

theorem timeOfWords?_none_eq_some_iff {word : List Char} {time : Time} :
    timeOfWords? word none = some time ↔
      SaysTime ReadableClock [word] time := by
  constructor
  · intro read
    by_cases bare : ∀ before letters half, word = before ++ letters →
      ¬ DayHalf.IsWord half letters
    · rw [timeOfWords?_of_bare bare, timeOfClock?_eq_some_iff] at read
      obtain ⟨parts, hour, clock, isHour, tells⟩ := read
      cases isHour
      exact .whole bare clock tells
    · push Not at bare
      obtain ⟨before, letters, half, rfl, meridiem⟩ := bare
      rw [timeOfWords?_append meridiem, timeOfClock?_letters_eq_some_iff]
        at read
      obtain ⟨parts, clock, tells⟩ := read
      exact .attached meridiem clock tells
  · intro said
    cases said with
    | whole bare clock tells =>
        rw [timeOfWords?_of_bare bare, timeOfClock?_eq_some_iff]
        exact ⟨_, _, clock, rfl, tells⟩
    | attached meridiem clock tells =>
        rw [timeOfWords?_append meridiem, timeOfClock?_letters_eq_some_iff]
        exact ⟨_, clock, tells⟩

theorem timeOfWords?_some_eq_some_iff {word letters : List Char} {time : Time} :
    timeOfWords? word (some letters) = some time ↔
      SaysTime ReadableClock [word, letters] time := by
  rw [timeOfWords?, timeOfClock?_upperAsciiChars]
  constructor
  · intro read
    obtain ⟨parts, hour, clock, isHour, tells⟩ :=
      timeOfClock?_eq_some_iff.mp read
    obtain ⟨half, meridiem, rfl⟩ := exists_half_of_hourWith? isHour
    exact .apart meridiem clock tells
  · intro said
    cases said with
    | apart meridiem clock tells =>
        rw [meridiem, timeOfClock?_letters_eq_some_iff]
        exact ⟨_, clock, tells⟩

/-- The program finds the clock before the date, which makes no difference. -/
theorem ofWords?_eq_some_iff {month day year word : List Char}
    {meridiem : Option (List Char)} {datetime : DateTime} :
    ofWords? month day year word meridiem = some datetime ↔
      dateOfWords? month day year = some datetime.date ∧
        timeOfWords? word meridiem = some datetime.time := by
  obtain ⟨date, time⟩ := datetime
  rcases cut : splitMeridiem (Text.upperAsciiChars word) with ⟨clock, letters⟩
  rcases meridiem with _ | given
  all_goals
    simp only [ofWords?, cut, dateOfWords?, timeOfWords?, timeOfClock?,
      Option.bind_eq_bind, Option.bind_eq_some_iff, Option.pure_def,
      Option.some.injEq, DateTime.mk.injEq]
    constructor
    · rintro ⟨_, isMonth, _, isDay, _, isYear, _, isClock, _, isHour, _, isDate,
        _, isTime, rfl, rfl⟩
      exact ⟨⟨_, isMonth, _, isDay, _, isYear, isDate⟩, _, isClock, _,
        isHour, isTime⟩
    · rintro ⟨⟨_, isMonth, _, isDay, _, isYear, isDate⟩, _, isClock, _,
        isHour, isTime⟩
      exact ⟨_, isMonth, _, isDay, _, isYear, _, isClock, _, isHour, _, isDate,
        _, isTime, rfl, rfl⟩

theorem ofMonthDayYear?_eq_some_iff {text : List Char} {datetime : DateTime} :
    ofMonthDayYear? text = some datetime ↔
      InWords ReadableClock text datetime := by
  unfold InWords
  simp only [← Text.words_eq_iff, ← dateOfWords?_eq_some_iff]
  constructor
  · intro read
    unfold ofMonthDayYear? at read
    split at read
    · next month day year word cut =>
        obtain ⟨isDate, isTime⟩ := ofWords?_eq_some_iff.mp read
        exact ⟨month, day, year, [word], cut, isDate,
          timeOfWords?_none_eq_some_iff.mp isTime⟩
    · next month day year word letters cut =>
        obtain ⟨isDate, isTime⟩ := ofWords?_eq_some_iff.mp read
        exact ⟨month, day, year, [word, letters], cut, isDate,
          timeOfWords?_some_eq_some_iff.mp isTime⟩
    · cases read
  · rintro ⟨month, day, year, time, cut, isDate, isTime⟩
    have several : (∃ word, time = [word]) ∨
        ∃ word letters, time = [word, letters] := by
      cases isTime with
      | whole | attached => exact .inl ⟨_, rfl⟩
      | apart => exact .inr ⟨_, _, rfl⟩
    rw [ofMonthDayYear?, cut]
    rcases several with ⟨word, rfl⟩ | ⟨word, letters, rfl⟩
    · exact ofWords?_eq_some_iff.mpr
        ⟨isDate, timeOfWords?_none_eq_some_iff.mpr isTime⟩
    · exact ofWords?_eq_some_iff.mpr
        ⟨isDate, timeOfWords?_some_eq_some_iff.mpr isTime⟩

end Timestamp

end RecordSql
