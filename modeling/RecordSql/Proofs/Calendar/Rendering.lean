import Mathlib.Data.List.Forall2
import RecordSql.Calendar.Pattern.Rendering

/-!
# What a pattern asks for

An item of a pattern is written from the date, from the time of day or from a
zone.  A date has no time of day, and neither a date nor a datetime has a zone.
So the items alone decide, and not the value, whether a pattern can be written,
and what is written is the text of each item in turn.
-/

namespace RecordSql

/-- Whether a number is taken from the time of day. -/
def NumberField.isOfTime : NumberField → Bool
  | hour | clockHour | minute | second | nanosecond | timestamp => true
  | _ => false

def WordField.isOfTime : WordField → Bool
  | lowerMeridiem | upperMeridiem | fraction | pointAndDigits _ | digits _ =>
      true
  | _ => false

def WordField.isOfZone : WordField → Bool
  | zoneName | zoneOffset | lenientZoneOffset | fullTimestamp => true
  | _ => false

namespace PatternItem

/-- Whether an item is written from the time of day. -/
def isOfTime : PatternItem → Bool
  | number field _ => field.isOfTime
  | word field => field.isOfTime
  | _ => false

/-- Whether an item is written from a zone. -/
def isOfZone : PatternItem → Bool
  | word field => field.isOfZone
  | _ => false

variable {date : Date} {time : Option Time}

theorem isSome_numberField? (field : NumberField) (padding : Padding) :
    (numberField? date time padding field).isSome =
      (!field.isOfTime || time.isSome) := by
  cases time with
  | none => cases field <;> rfl
  | some time => cases field <;> rfl

theorem isSome_wordField? (field : WordField) :
    (wordField? date time field).isSome =
      (!field.isOfZone && (!field.isOfTime || time.isSome)) := by
  cases time with
  | none => cases field <;> rfl
  | some time => cases field <;> rfl

theorem isSome_render? (item : PatternItem) :
    (item.render? date time).isSome =
      (!item.isOfZone && (!item.isOfTime || time.isSome)) := by
  cases item with
  | literal character => rfl
  | blank character => rfl
  | number field padding => exact isSome_numberField? field padding
  | word field => exact isSome_wordField? field

end PatternItem

namespace Pattern

/-- The text of each item, one after another. -/
def Writes (pattern : Pattern) (date : Date) (time : Option Time)
    (text : String) : Prop :=
  ∃ texts, List.Forall₂
      (fun item text => item.render? date time = some text)
      pattern.items texts ∧
    String.ofList texts.flatten = text

/-- A pattern that asks for the parts of a date only. -/
def IsOfDates (pattern : Pattern) : Prop :=
  ∀ item ∈ pattern.items, item.isOfTime = false ∧ item.isOfZone = false

/-- A pattern that asks for the parts of a date and of a time of day only. -/
def IsOfDateTimes (pattern : Pattern) : Prop :=
  ∀ item ∈ pattern.items, item.isOfZone = false

instance (pattern : Pattern) : Decidable pattern.IsOfDates :=
  inferInstanceAs (Decidable (∀ item ∈ pattern.items,
    item.isOfTime = false ∧ item.isOfZone = false))

instance (pattern : Pattern) : Decidable pattern.IsOfDateTimes :=
  inferInstanceAs (Decidable (∀ item ∈ pattern.items, item.isOfZone = false))

variable {pattern : Pattern} {date : Date} {time : Option Time}
  {datetime : DateTime}

private theorem renderItems?_eq_some_iff {items : List PatternItem}
    {text : List Char} : renderItems? date time items = some text ↔
      ∃ texts, List.Forall₂
          (fun item text => item.render? date time = some text) items texts ∧
        texts.flatten = text := by
  induction items generalizing text with
  | nil => simp [renderItems?, eq_comm]
  | cons item items induction =>
      simp only [renderItems?, Option.bind_eq_bind, Option.bind_eq_some_iff,
        Option.pure_def, Option.some.injEq]
      constructor
      · rintro ⟨first, written, rest, writtenRest, rfl⟩
        obtain ⟨texts, each, rfl⟩ := induction.mp writtenRest
        exact ⟨first :: texts, .cons written each, rfl⟩
      · rintro ⟨_, each, rfl⟩
        obtain ⟨first, texts, written, writtenRest, rfl⟩ :=
          List.forall₂_cons_left_iff.mp each
        exact ⟨first, written, texts.flatten,
          induction.mpr ⟨texts, writtenRest, rfl⟩, rfl⟩

private theorem isSome_renderItems?_iff {items : List PatternItem} :
    (renderItems? date time items).isSome = true ↔
      ∀ item ∈ items, (item.render? date time).isSome = true := by
  induction items with
  | nil => simp [renderItems?]
  | cons item items induction =>
      rw [List.forall_mem_cons, ← induction, renderItems?]
      cases item.render? date time with
      | none => simp
      | some text => cases renderItems? date time items <;> simp

private theorem map_renderItems?_eq_some_iff {text : String} :
    (renderItems? date time pattern.items).map String.ofList = some text ↔
      pattern.Writes date time text := by
  simp only [Option.map_eq_some_iff, renderItems?_eq_some_iff]
  constructor
  · rintro ⟨_, ⟨texts, each, rfl⟩, written⟩
    exact ⟨texts, each, written⟩
  · rintro ⟨texts, each, written⟩
    exact ⟨texts.flatten, ⟨texts, each, rfl⟩, written⟩

theorem renderDate?_eq_some_iff {text : String} :
    pattern.renderDate? date = some text ↔ pattern.Writes date none text :=
  map_renderItems?_eq_some_iff

theorem renderDateTime?_eq_some_iff {text : String} :
    pattern.renderDateTime? datetime = some text ↔
      pattern.Writes datetime.date (some datetime.time) text :=
  map_renderItems?_eq_some_iff

/-- Every date is written by a pattern of dates, and no date by another one. -/
theorem isSome_renderDate?_iff (date : Date) :
    (pattern.renderDate? date).isSome = true ↔ pattern.IsOfDates := by
  rw [renderDate?, Option.isSome_map, isSome_renderItems?_iff]
  simp [PatternItem.isSome_render?, IsOfDates, and_comm]

/-- Every datetime is written by a pattern of datetimes, and no datetime
by another one. -/
theorem isSome_renderDateTime?_iff (datetime : DateTime) :
    (pattern.renderDateTime? datetime).isSome = true ↔
      pattern.IsOfDateTimes := by
  rw [renderDateTime?, Option.isSome_map, isSome_renderItems?_iff]
  simp [PatternItem.isSome_render?, IsOfDateTimes]

end Pattern

end RecordSql
