import RecordSql.Proofs.Calendar.Exchange
import RecordSql.Proofs.Formats.Rewriting
import RecordSql.Value.Json

/-!
# Exchanged dates and datetimes in columns

With the formats that settings have by default, the text as which a datetime is
exchanged reads as this datetime to the nanosecond, in every year and in a leap
second too.  So a column of dates or of datetimes takes it, and the text of a
date, for the value itself.
-/

namespace RecordSql

private theorem isBlank_of_mem_exchange {datetime : DateTime} {character : Char}
    (member : character ∈ datetime.isoChars 'T') :
    Text.isBlank character = false := by
  have hyphen : Text.isBlank '-' = false := rfl
  have colon : Text.isBlank ':' = false := rfl
  have letter : Text.isBlank 'T' = false := rfl
  simp only [DateTime.isoChars, Date.isoChars, Time.isoChars, List.mem_append,
    List.mem_cons] at member
  rcases member with ((year | rfl | month) | rfl | day) | rfl |
    ((hour | rfl | minute) | rfl | second) | fraction
  · exact isBlank_of_mem_yearChars year
  · exact hyphen
  · exact isBlank_of_mem_padLeft month
  · exact hyphen
  · exact isBlank_of_mem_padLeft day
  · exact letter
  · exact isBlank_of_mem_padLeft hour
  · exact colon
  · exact isBlank_of_mem_padLeft minute
  · exact colon
  · exact isBlank_of_mem_padLeft second
  · exact isBlank_of_mem_fractionChars fraction

/-- The patterns for dates and the internet notation are tried before the
one that reads it. -/
theorem Timestamp.ofIso?_isoChars (datetime : DateTime) :
    ofIso? (datetime.isoChars 'T') = some datetime := by
  have noInternet :
      DateTime.ofInternetText? (datetime.isoChars 'T') = none := by
    rw [DateTime.ofInternetText?, CalendarFields.readInternet?_isoChars]
  have noBlank := Pattern.readDateTime?_of_letter datetime.date
    (PatternItem.isoTime.tail ++ [.word .fraction]) datetime.time.isoChars
  rw [ofIso?, noInternet, Pattern.isoDateTimePatterns_eq, List.findSome?_cons]
  rw [show (Pattern.isoPrecise (.blank ' ')).readDateTime?
    (datetime.isoChars 'T') = none from noBlank, List.findSome?_cons,
    Pattern.readDateTime?_isoPrecise]
  rfl

namespace Formats

theorem read?_exchangeText (datetime : DateTime) :
    ({} : Settings).formats.read? datetime.exchangeText = some datetime := by
  have present : datetime.isoChars 'T' ≠ [] := by simp [DateTime.isoChars]
  have trimmed :=
    Text.trimChars_of_shown present fun _ => isBlank_of_mem_exchange
  have noBlank :
      Pattern.isoDateTime.readDateTime? (datetime.isoChars 'T') = none :=
    Pattern.readDateTime?_of_letter datetime.date PatternItem.isoTime.tail
      datetime.time.isoChars
  have longer : Pattern.isoDate.readDate? (datetime.isoChars 'T') = none :=
    Pattern.readDate?_of_longer datetime.date 'T' datetime.time.isoChars
  simp [DateTime.exchangeText, read?, trimmed, present, default_eq,
    readTrimmed?, noBlank, longer, Timestamp.ofIso?_isoChars]

theorem read?_text (date : Date) :
    ({} : Settings).formats.read? date.text = some (.atMidnight date) := by
  rw [← dateText_default]
  exact read?_dateText date

end Formats

/-- The value that is read where this one was written as JSON. -/
def Value.exchanged : Value → Value
  | .dateTime value => .string value.exchangeText
  | .date value => .string value.text
  | value => value

theorem Value.toJson_exchanged (value : Value) :
    value.exchanged.toJson = value.toJson := by
  cases value <;> rfl

namespace Formats

variable {column : Column}

/-- A temporal column takes a date or datetime and its text for the same. -/
theorem bind_exchanged (temporal : column.kind.isTemporal = true)
    (value : Value) : ({} : Settings).formats.bind value.exchanged column =
      ({} : Settings).formats.bind value column := by
  cases value with
  | dateTime datetime =>
      have read := read?_exchangeText datetime
      rw [Value.exchanged, bind_string_of_temporal temporal,
        rewritten_of_read? _ read]
      cases kind : column.kind
      case date => simp [bind, kind, dateColumnText, timestampText]
      case dateTime =>
        simp [bind, kind, dateTimeColumnText, timestampText, plainText]
      all_goals simp [kind, ColumnKind.isTemporal] at temporal
  | date date =>
      have read := read?_text date
      rw [Value.exchanged, bind_string_of_temporal temporal,
        rewritten_of_read? _ read]
      cases kind : column.kind
      case date =>
        simp [bind, kind, dateColumnText, timestampText, DateTime.atMidnight]
      case dateTime => simp [bind, kind, dateTimeColumnText, timestampText]
      all_goals simp [kind, ColumnKind.isTemporal] at temporal
  | _ => rfl

end Formats

end RecordSql
