import RecordSql.Binding
import RecordSql.Proofs.Number.Decimal

/-!
# Binding whole numbers

A column of whole numbers takes the whole part of a number.  Doubles and texts
beyond the range of such a column are held at its ends, and a text that is no
whole numeral is rounded to a double first.  So what is bound is sure to be the
whole part of a number that fits in the range, if it is not rounded or if
rounding cannot reach the next whole number.
-/

namespace RecordSql

def Number.FitsInt64 (value : ℤ) : Prop :=
  leastInt64 ≤ value ∧ value ≤ greatestInt64

namespace Number

variable {value : ℤ}

theorem fitsInt64_toInt (value : Int64) : FitsInt64 value.toInt :=
  ⟨Int64.le_toInt value, Int64.toInt_le value⟩

theorem FitsInt64.toInt_ofInt (fits : FitsInt64 value) :
    (Int64.ofInt value).toInt = value := by
  obtain ⟨least, most⟩ := fits
  unfold leastInt64 at least
  unfold greatestInt64 at most
  exact Int64.toInt_ofInt_of_le (by omega) (by omega)

theorem FitsInt64.toInt64?_eq (fits : FitsInt64 value) :
    toInt64? value = some (.ofInt value) :=
  if_pos fits

theorem FitsInt64.clampInt64_eq (fits : FitsInt64 value) :
    clampInt64 value = .ofInt value := by
  rw [clampInt64, if_neg (not_lt.mpr fits.1), if_neg (not_lt.mpr fits.2)]

end Number

theorem IsApart.fitsInt64 {number : ℚ} (apart : IsApart number) :
    Number.FitsInt64 (wholePart number) := by
  obtain ⟨least, most⟩ := abs_lt.mp apart.lt
  have between : (-2 ^ 53 : ℚ) < (wholePart number : ℚ) ∧
      (wholePart number : ℚ) < 2 ^ 53 := by
    unfold wholePart
    split_ifs with negative
    · have nonpos : ((⌈number⌉ : ℤ) : ℚ) ≤ 0 := by
        exact_mod_cast Int.ceil_nonpos.mpr negative.le
      exact ⟨least.trans_le (Int.le_ceil number), nonpos.trans_lt (by norm_num)⟩
    · have nonneg : (0 : ℚ) ≤ ⌊number⌋ := by
        exact_mod_cast Int.floor_nonneg.mpr (not_lt.mp negative)
      exact ⟨(by norm_num : (-2 ^ 53 : ℚ) < 0).trans_le nonneg,
        (Int.floor_le number).trans_lt most⟩
  have leastWhole : -2 ^ 53 < wholePart number := by exact_mod_cast between.1
  have mostWhole : wholePart number < 2 ^ 53 := by exact_mod_cast between.2
  unfold Number.FitsInt64 Number.leastInt64 Number.greatestInt64
  omega

namespace Value

/-- The number that a value stands for, if it stands for one. -/
def number? : Value → Option ℚ
  | integer value => some value.toInt
  | boolean value => some (if value then 1 else 0)
  | double value => value.number?
  | string text => Number.ofText? (Text.trimChars text.toList)
  | _ => none

/-- The value is no text, or is a text of digits with a sign or without. -/
def IsUnrounded : Value → Prop
  | string text => (Number.signed? (Text.trimChars text.toList)).isSome
  | _ => True

variable {value : Value} {number : ℚ}

theorem exists_number_of_whole? {whole : Int64}
    (isWhole : value.whole? = some whole) :
    ∃ number, value.number? = some number := by
  cases value with
  | integer value => exact ⟨_, rfl⟩
  | boolean value => exact ⟨_, rfl⟩
  | double value =>
      obtain ⟨_, truncated, _⟩ := Option.map_eq_some_iff.mp isWhole
      rw [Double.truncate?_eq] at truncated
      obtain ⟨number, stands, _⟩ := Option.map_eq_some_iff.mp truncated
      exact ⟨number, stands⟩
  | string text =>
      rw [whole?, wholeOfText?, Option.orElse_eq_some] at isWhole
      rcases isWhole with exact | ⟨_, rounded⟩
      · obtain ⟨value, numeral, _⟩ := Option.bind_eq_some_iff.mp exact
        exact ⟨_, Number.ofText?_of_signed? numeral⟩
      · obtain ⟨_, truncated, _⟩ := Option.map_eq_some_iff.mp rounded
        exact Number.exists_number_of_truncate? truncated
  | null | dateTime | date | binary => cases isWhole

theorem whole?_of_unrounded (unrounded : value.IsUnrounded)
    (stands : value.number? = some number)
    (fits : Number.FitsInt64 (wholePart number)) :
    value.whole? = some (.ofInt (wholePart number)) := by
  cases value with
  | integer value =>
      cases stands
      rw [wholePart_intCast, Int64.ofInt_toInt]
      rfl
  | boolean value =>
      cases stands
      cases value <;> rfl
  | double value =>
      rw [whole?, Double.truncate?_eq]
      have sameNumber : value.number? = some number := stands
      rw [sameNumber, Option.map_some, Option.map_some, fits.clampInt64_eq]
  | string text =>
      obtain ⟨value, numeral⟩ := Option.isSome_iff_exists.mp unrounded
      have same : (value : ℚ) = number :=
        Option.some.inj ((Number.ofText?_of_signed? numeral).symm.trans stands)
      rw [← same, wholePart_intCast] at fits ⊢
      rw [whole?, wholeOfText?, Number.int64?, numeral, Option.bind_some,
        fits.toInt64?_eq]
      rfl
  | null | dateTime | date | binary => cases stands

theorem whole?_of_apart (stands : value.number? = some number)
    (apart : IsApart number) :
    value.whole? = some (.ofInt (wholePart number)) := by
  by_cases unrounded : value.IsUnrounded
  · exact whole?_of_unrounded unrounded stands apart.fitsInt64
  · cases value with
    | string text =>
        have noNumeral : Number.signed? (Text.trimChars text.toList) = none :=
          Option.not_isSome_iff_eq_none.mp unrounded
        rw [whole?, wholeOfText?, Number.int64?, noNumeral,
          Number.truncate?_ofText? stands apart, Option.map_some,
          apart.fitsInt64.clampInt64_eq]
        rfl
    | _ => exact absurd trivial unrounded

end Value

/-- What a value is bound to in a column of whole numbers. -/
structure BindsWhole (column : Column) (value : Value)
    (outcome : Except Fault Param) : Prop where
  /-- Only a number is bound, and only to a whole number. -/
  accepted : ∀ param, outcome = .ok param →
    ∃ (whole : Int64) (number : ℚ), param = .integer whole ∧
      value.number? = some number
  refused : ∀ fault, outcome = .error fault →
    fault = .invalidValue column.name "integer" value.text
  /-- A number that is not rounded is bound to its whole part
  exactly if that fits. -/
  unrounded : value.IsUnrounded → ∀ number, value.number? = some number →
    ((∃ whole : Int64, outcome = .ok (.integer whole) ∧
        whole.toInt = wholePart number) ↔
      Number.FitsInt64 (wholePart number))
  /-- No number is bound to another whole number if rounding cannot
  reach the next one. -/
  apart : ∀ number, value.number? = some number → IsApart number →
    ∃ whole : Int64, outcome = .ok (.integer whole) ∧
      whole.toInt = wholePart number

namespace Formats

variable {column : Column} {value : Value} (formats : Formats)
  (integer : column.kind = .integer)

include integer

private theorem bind_of_whole {whole : Int64}
    (isWhole : value.whole? = some whole) :
    formats.bind value column = .ok (.integer whole) := by
  cases value with
  | null => cases isWhole
  | _ => simp only [bind, integer, isWhole]

private theorem bind_of_no_whole (present : value.isNull = false)
    (noWhole : value.whole? = none) :
    formats.bind value column =
      .error (.invalidValue column.name "integer" value.text) := by
  cases value with
  | null => cases present
  | _ => simp only [bind, integer, noWhole]

theorem bindsWhole (present : value.isNull = false) :
    BindsWhole column value (formats.bind value column) := by
  refine ⟨?accepted, ?refused, ?unrounded, ?apart⟩
  case accepted =>
    intro param bound
    cases isWhole : value.whole? with
    | some whole =>
        cases (bind_of_whole formats integer isWhole).symm.trans bound
        obtain ⟨number, stands⟩ := Value.exists_number_of_whole? isWhole
        exact ⟨whole, number, rfl, stands⟩
    | none =>
        cases (bind_of_no_whole formats integer present isWhole).symm.trans
          bound
  case refused =>
    intro fault refused
    cases isWhole : value.whole? with
    | some whole =>
        cases (bind_of_whole formats integer isWhole).symm.trans refused
    | none =>
        cases (bind_of_no_whole formats integer present isWhole).symm.trans
          refused
        rfl
  case unrounded =>
    intro unrounded number stands
    constructor
    · rintro ⟨whole, _, same⟩
      rw [← same]
      exact Number.fitsInt64_toInt whole
    · intro fits
      exact ⟨_, bind_of_whole formats integer
        (Value.whole?_of_unrounded unrounded stands fits), fits.toInt_ofInt⟩
  case apart =>
    intro number stands apart
    exact ⟨_, bind_of_whole formats integer
      (Value.whole?_of_apart stands apart), apart.fitsInt64.toInt_ofInt⟩

end Formats

end RecordSql
