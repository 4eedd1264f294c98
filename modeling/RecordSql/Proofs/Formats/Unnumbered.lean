import RecordSql.Proofs.Formats
import RecordSql.Proofs.Text.Words

/-!
# Texts that do not start as a number

The formats that settings have by default, and all international notation,
start with a year.  So a text that does not start with a digit or a sign is
read by its words alone.
-/

namespace RecordSql

section Unnumbered

variable {text : List Char}

theorem Reading.number?_eq_none
    (noDigit : ∀ first ∈ text.head?, first.isDigit = false) (least most : Nat) :
    number? least most text = none := by
  have noDigits : (text.take most).takeWhile Char.isDigit = [] := by
    cases text with
    | nil => simp
    | cons first rest => cases most <;> simp [noDigit first rfl]
  simp [number?, noDigits]

theorem Reading.year?_eq_none
    (noDigit : ∀ first ∈ text.head?, first.isDigit = false)
    (noSign : ∀ first ∈ text.head?, first ≠ '+' ∧ first ≠ '-') :
    year? text = none := by
  unfold year?
  split
  · exact absurd rfl (noSign _ rfl).2
  · exact absurd rfl (noSign _ rfl).1
  · rw [number?_eq_none noDigit]
    rfl

variable (unnumbered : ¬ Text.StartsAsNumber text)
include unnumbered

theorem Text.isDigit_head_of_unnumbered :
    ∀ first ∈ text.head?, first.isDigit = false := by
  intro first isFirst
  cases text with
  | nil => cases isFirst
  | cons character rest =>
      cases isFirst
      rw [← Bool.not_eq_true]
      intro digit
      have shown := isBlank_of_isDigit digit
      exact unnumbered ⟨first, by simp [dropBlanks, shown], .inl digit⟩

theorem CalendarFields.readNumber?_year_eq_none (fields : CalendarFields) :
    fields.readNumber? .year text = none := by
  have noDigit : ∀ first ∈ (Text.dropBlanks text).head?,
      first.isDigit = false := by
    intro first isFirst
    rw [← Bool.not_eq_true]
    exact fun digit => unnumbered ⟨first, isFirst, .inl digit⟩
  have noSign : ∀ first ∈ (Text.dropBlanks text).head?, first ≠ '+' ∧
      first ≠ '-' := by
    intro first isFirst
    exact ⟨fun plus => unnumbered ⟨first, isFirst, .inr (.inl plus)⟩,
      fun minus => unnumbered ⟨first, isFirst, .inr (.inr minus)⟩⟩
  rw [readNumber?]
  dsimp only
  rw [Reading.year?_eq_none noDigit noSign]
  rfl

theorem CalendarFields.readItems?_eq_none {items : List PatternItem}
    (startsAsYear : items.head? = some (.number .year .zero))
    (fields : CalendarFields) : fields.readItems? items text = none := by
  cases items with
  | nil => cases startsAsYear
  | cons item items =>
      cases startsAsYear
      rw [readItems?, readItem?, readNumber?_year_eq_none unnumbered]

theorem DateTime.ofInternetText?_eq_none : ofInternetText? text = none := by
  have noYear :=
    Reading.number?_eq_none (Text.isDigit_head_of_unnumbered unnumbered) 4 4
  have unread : CalendarFields.readInternet? text = none := by
    simp [CalendarFields.readInternet?, CalendarFields.readFixed?, noYear]
  rw [ofInternetText?, unread]

namespace Pattern

variable {pattern : Pattern}
  (startsAsYear : pattern.items.head? = some (.number .year .zero))
include startsAsYear

theorem readDateTime?_eq_none : pattern.readDateTime? text = none := by
  rw [readDateTime?, CalendarFields.readItems?_eq_none unnumbered startsAsYear]

theorem readDate?_eq_none : pattern.readDate? text = none := by
  rw [readDate?, CalendarFields.readItems?_eq_none unnumbered startsAsYear]

end Pattern

theorem Timestamp.ofIso?_eq_none : ofIso? text = none := by
  have startAsYear : ∀ pattern ∈ isoDateTimePatterns ++ isoDatePatterns,
      pattern.items.head? = some (.number .year .zero) := by decide
  rw [List.forall_mem_append] at startAsYear
  have noDateTime : isoDateTimePatterns.findSome?
        (fun pattern => pattern.readDateTime? text) =
      none :=
    List.findSome?_eq_none_iff.mpr fun pattern member =>
      Pattern.readDateTime?_eq_none unnumbered (startAsYear.1 pattern member)
  have noDate : isoDatePatterns.findSome?
      (fun pattern => pattern.readDate? text) = none :=
    List.findSome?_eq_none_iff.mpr fun pattern member =>
      Pattern.readDate?_eq_none unnumbered (startAsYear.2 pattern member)
  simp [ofIso?, DateTime.ofInternetText?_eq_none unnumbered, noDateTime, noDate]

theorem Formats.readTrimmed?_of_unnumbered :
    ({} : Settings).formats.readTrimmed? text =
      Timestamp.ofMonthDayYear? text := by
  have noDateTime : Pattern.isoDateTime.readDateTime? text = none :=
    Pattern.readDateTime?_eq_none unnumbered rfl
  have noDate : Pattern.isoDate.readDate? text = none :=
    Pattern.readDate?_eq_none unnumbered rfl
  simp [default_eq, readTrimmed?, noDateTime, noDate,
    Timestamp.ofIso?_eq_none unnumbered]

theorem Text.unnumbered_trimChars : ¬ StartsAsNumber (trimChars text) := by
  rintro ⟨first, isFirst, numbered⟩
  rw [dropBlanks_trimChars] at isFirst
  obtain ⟨trailing, _, whole⟩ := exists_dropTrailing isBlank (dropBlanks text)
  refine unnumbered ⟨first, ?_, numbered⟩
  rw [whole, ← trimChars, List.head?_append, Option.mem_def.mp isFirst]
  rfl

end Unnumbered

namespace Formats

/-- Blanks at the ends belong to no word. -/
theorem read?_of_unnumbered {text : String}
    (unnumbered : ¬ Text.StartsAsNumber text.toList) :
    ({} : Settings).formats.read? text =
      Timestamp.ofMonthDayYear? text.toList := by
  have trimmed :=
    readTrimmed?_of_unnumbered (Text.unnumbered_trimChars unnumbered)
  have sameWords : Timestamp.ofMonthDayYear? (Text.trimChars text.toList) =
      Timestamp.ofMonthDayYear? text.toList := by
    rw [Timestamp.ofMonthDayYear?, Text.words_trimChars,
      Timestamp.ofMonthDayYear?]
  rw [read?, trimmed, sameWords]
  split
  · next empty =>
      rw [← sameWords, List.isEmpty_iff.mp empty]
      rfl
  · rfl

end Formats

end RecordSql
