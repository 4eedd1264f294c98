import RecordSql.Proofs.Formats

/-!
# Rewritten timestamps

A column of dates or of datetimes rewrites a text that reads as a timestamp
in its own notation, and keeps any other.  With the formats that settings
have by default, what is written reads as the same date, or as the same
datetime to whole seconds, whatever notation the text had before, and is
not rewritten again.
-/

namespace RecordSql

namespace Formats

/-- What a timestamp is written as in a column of dates or of datetimes. -/
def timestampText (formats : Formats) (kind : ColumnKind)
    (datetime : DateTime) : String :=
  if kind = .date then formats.dateText datetime.date
  else formats.dateTimeText datetime

/-- A text is no timestamp, or is written as the column would write it. -/
def Settled (formats : Formats) (kind : ColumnKind) (text : String) : Prop :=
  ∀ datetime, formats.read? text = some datetime →
    formats.timestampText kind datetime = text

/-- What a text is written as in a column of dates or of datetimes. -/
def rewritten (formats : Formats) (kind : ColumnKind)
    (text : String) : String :=
  ((formats.read? text).map (formats.timestampText kind)).getD text

variable {formats : Formats} {column : Column} {text : String}

theorem bind_string_of_temporal (temporal : column.kind.isTemporal = true) :
    formats.bind (.string text) column =
      .ok (.text (formats.rewritten column.kind text)) := by
  cases kind : column.kind
  case date =>
    cases read : formats.read? text <;>
      simp [bind, kind, dateColumnText, rewritten, timestampText, read]
  case dateTime =>
    cases read : formats.read? text <;>
      simp [bind, kind, dateTimeColumnText, rewritten, timestampText, read]
  all_goals
    rw [kind] at temporal
    cases temporal

theorem rewritten_of_read? (kind : ColumnKind) {datetime : DateTime}
    (read : formats.read? text = some datetime) :
    formats.rewritten kind text = formats.timestampText kind datetime := by
  rw [rewritten, read]
  rfl

theorem rewritten_of_unread (kind : ColumnKind)
    (unread : formats.read? text = none) :
    formats.rewritten kind text = text := by
  rw [rewritten, unread]
  rfl

theorem rewritten_eq_self_iff (kind : ColumnKind) :
    formats.rewritten kind text = text ↔ formats.Settled kind text := by
  unfold rewritten Settled
  cases formats.read? text with
  | none => simp
  | some datetime => simp

theorem bind_string_temporal (temporal : column.kind.isTemporal = true) :
    ∃ bound, formats.bind (.string text) column = .ok (.text bound) ∧
      (bound = text ↔ formats.Settled column.kind text) :=
  ⟨_, bind_string_of_temporal temporal, rewritten_eq_self_iff column.kind⟩

end Formats

/-- What is left of a datetime in a column of dates, or else in
one of datetimes. -/
def ColumnKind.stored (kind : ColumnKind) (datetime : DateTime) : DateTime :=
  if kind = .date then .atMidnight datetime.date else datetime.wholeSeconds

namespace Formats

variable {column : Column}

theorem timestampText_stored (kind : ColumnKind) (datetime : DateTime) :
    ({} : Settings).formats.timestampText kind (kind.stored datetime) =
      ({} : Settings).formats.timestampText kind datetime := by
  unfold timestampText ColumnKind.stored
  split
  · rfl
  · rw [dateTimeText_default, dateTimeText_default]
    simp only [DateTime.wholeSeconds, Time.wholeSecondChars,
      Time.shownSecond_wholeSeconds]
    rfl

theorem read?_timestampText (kind : ColumnKind) (datetime : DateTime) :
    ({} : Settings).formats.read?
        (({} : Settings).formats.timestampText kind datetime) =
      some (kind.stored datetime) := by
  unfold timestampText ColumnKind.stored
  split
  · exact read?_dateText datetime.date
  · exact read?_dateTimeText datetime

/-- What is written for a timestamp is not written in another way again. -/
private theorem settled_rewritten (kind : ColumnKind) (text : String) :
    ({} : Settings).formats.Settled kind
      (({} : Settings).formats.rewritten kind text) := by
  intro again readAgain
  cases read : ({} : Settings).formats.read? text with
  | none =>
      rw [rewritten_of_unread kind read, read] at readAgain
      cases readAgain
  | some datetime =>
      rw [rewritten_of_read? kind read] at readAgain ⊢
      rw [read?_timestampText] at readAgain
      cases readAgain
      exact timestampText_stored kind datetime

/-- A text in a column of dates or datetimes: what is written for it, and how
that is read and written in its turn. -/
structure Rewrites (formats : Formats) (column : Column)
    (text written : String) : Prop where
  bound : formats.bind (.string text) column = .ok (.text written)
  settled : formats.bind (.string written) column = .ok (.text written)
  /-- A text that is no timestamp is kept. -/
  kept : formats.read? text = none → written = text
  /-- A timestamp stays one, of the same date or to whole seconds the same. -/
  read : ∀ datetime, formats.read? text = some datetime →
    formats.read? written = some (column.kind.stored datetime)

/-- Every text is written in one way for good, whichever notation it is read
by. -/
theorem exists_rewrites (temporal : column.kind.isTemporal = true)
    (text : String) :
    ∃ written, ({} : Settings).formats.Rewrites column text written := by
  refine ⟨({} : Settings).formats.rewritten column.kind text, ?bound, ?settled,
    ?kept, ?read⟩
  case bound => exact bind_string_of_temporal temporal
  case settled =>
    rw [bind_string_of_temporal temporal,
      (rewritten_eq_self_iff column.kind).mpr
        (settled_rewritten column.kind text)]
  case kept => exact rewritten_of_unread column.kind
  case read =>
    intro datetime read
    rw [rewritten_of_read? column.kind read]
    exact read?_timestampText column.kind datetime

/-- A leap second in words is written in figures, without its fraction. -/
theorem exists_rewrites_leapSecond :
    let formats := ({} : Settings).formats
    let moment : Column :=
      .ofDeclared ⟨"moment", "timestamp", true, false, none⟩
    let words := "june 30, 2015\t11:59:59:1250 pm"
    let written := "2015-06-30 23:59:60"
    let leap : DateTime :=
      ⟨⟨2015, 6, 30, by decide⟩, 23, 59, 59, 1250000000, by decide⟩
    let whole : DateTime :=
      ⟨⟨2015, 6, 30, by decide⟩, 23, 59, 59, 1000000000, by decide⟩
    moment.kind.isTemporal = true ∧ formats.Rewrites moment words written ∧
      formats.read? words = some leap ∧ formats.read? written = some whole := by
  intro formats moment words written leap whole
  have temporal : moment.kind.isTemporal = true := by decide +kernel
  have read : formats.read? words = some leap := by decide +kernel
  have stored : moment.kind.stored leap = whole := by decide +kernel
  have bound : formats.bind (.string words) moment = .ok (.text written) := by
    decide +kernel
  obtain ⟨other, rewrites⟩ := exists_rewrites temporal words
  obtain rfl : other = written := by
    simpa using rewrites.bound.symm.trans bound
  rw [← stored]
  exact ⟨temporal, rewrites, read, rewrites.read _ read⟩

end Formats

end RecordSql
