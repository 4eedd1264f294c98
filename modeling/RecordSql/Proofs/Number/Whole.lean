import Mathlib.Data.List.Basic
import RecordSql.Number.Whole

/-!
# Digits of whole numbers

The digits that a number is written with are digits, and stand for the number;
zeros before them change neither.
-/

namespace RecordSql.Number

variable {width value : Nat}

theorem isDigit_of_mem_padLeft {character : Char}
    (member : character ∈ padLeft width '0' (digitChars value)) :
    character.isDigit = true := by
  rcases List.mem_append.mp member with zero | digit
  · obtain rfl := List.eq_of_mem_replicate zero
    rfl
  · exact Nat.isDigit_of_mem_toDigits (by decide) (by decide) digit

theorem ofDigitChars_padLeft :
    Nat.ofDigitChars 10 (padLeft width '0' (digitChars value)) 0 = value := by
  rw [padLeft, Nat.ofDigitChars_append, Nat.ofDigitChars_replicate_zero,
    Nat.mul_zero]
  exact Nat.ofDigitChars_ten_toDigits

theorem padLeft_ne_nil : padLeft width '0' (digitChars value) ≠ [] := by
  intro nothing
  exact Nat.toDigits_ne_nil (List.append_eq_nil_iff.mp nothing).2

/-- The digits that a number is written with start with a digit. -/
theorem padLeft_starts (width value : Nat) :
    ∃ first more, padLeft width '0' (digitChars value) = first :: more ∧
      first.isDigit = true := by
  obtain ⟨first, more, written⟩ :=
    List.exists_cons_of_ne_nil (@padLeft_ne_nil width value)
  exact ⟨first, more, written,
    isDigit_of_mem_padLeft (by rw [written]; exact List.mem_cons_self)⟩

theorem length_padLeft (positive : 0 < width)
    (fits : value < Nat.pow 10 width) :
    (padLeft width '0' (digitChars value)).length = width := by
  have atMost : (digitChars value).length ≤ width :=
    (Nat.length_toDigits_le_iff (by decide) positive).mpr fits
  rw [padLeft, List.length_append, List.length_replicate]
  omega

theorem digitChars_starts (value : Nat) :
    ∃ first more, digitChars value = first :: more ∧ first.isDigit = true := by
  obtain ⟨first, more, written⟩ :=
    List.exists_cons_of_ne_nil (@Nat.toDigits_ne_nil value 10)
  have member : first ∈ Nat.toDigits 10 value := by
    rw [written]
    exact List.mem_cons_self
  exact ⟨first, more, written,
    Nat.isDigit_of_mem_toDigits (by decide) (by decide) member⟩

theorem natOfDigits?_digitChars (value : Nat) :
    natOfDigits? (digitChars value) = some value := by
  have present : digitChars value ≠ [] := Nat.toDigits_ne_nil
  have every : ∀ digit ∈ digitChars value, digit.isDigit = true := fun _ =>
    Nat.isDigit_of_mem_toDigits (by decide) (by decide)
  have read : Nat.ofDigitChars 10 (digitChars value) 0 = value :=
    Nat.ofDigitChars_ten_toDigits
  rw [natOfDigits?, if_neg (by simpa using present),
    if_pos (List.all_eq_true.mpr every), read]

theorem signed?_intChars (value : Int) :
    signed? (intChars value) = some value := by
  unfold intChars
  split
  · next negative =>
      have same : -(value.natAbs : Int) = value := by omega
      rw [signed?, natOfDigits?_digitChars]
      exact congrArg some same
  · next positive =>
      have same : (value.natAbs : Int) = value := by omega
      have read := natOfDigits?_digitChars value.natAbs
      obtain ⟨first, more, written, digit⟩ := digitChars_starts value.natAbs
      rw [written] at read ⊢
      unfold signed?
      split
      · next minus =>
          obtain ⟨rfl, _⟩ := List.cons.inj minus
          cases digit
      · next plus =>
          obtain ⟨rfl, _⟩ := List.cons.inj plus
          cases digit
      · rw [read, Option.map_some, Int.ofNat_eq_natCast, same]

theorem toInt64?_toInt (value : Int64) : toInt64? value.toInt = some value := by
  have bounded : leastInt64 ≤ value.toInt ∧ value.toInt ≤ greatestInt64 :=
    ⟨Int64.le_toInt value, Int64.toInt_le value⟩
  rw [toInt64?, if_pos bounded, Int64.ofInt_toInt]

theorem int64?_intChars (value : Int64) :
    int64? (intChars value.toInt) = some value := by
  rw [int64?, signed?_intChars, Option.bind_some, toInt64?_toInt]

/-- A number other than zero is written without leading zeros. -/
theorem eq_zero_of_head? (zero : (digitChars value).head? = some '0') :
    value = 0 := by
  induction value using Nat.strongRecOn with
  | ind value induction =>
      rw [digitChars, Nat.toDigits_eq_if (by decide)] at zero
      split at zero
      · next single =>
          have digits : ∀ digit < 10, [Nat.digitChar digit].head? = some '0' →
              digit = 0 := by
            decide
          exact digits value single zero
      · next several =>
          rw [List.head?_append_of_ne_nil _ Nat.toDigits_ne_nil] at zero
          have nothing := induction (value / 10) (by omega) zero
          omega

end RecordSql.Number

namespace RecordSql

/-- A text does not go on with a digit. -/
def EndsDigits (rest : List Char) : Prop :=
  ∀ character ∈ rest.head?, character.isDigit = false

namespace Number

variable {digits rest : List Char}

theorem takeWhile_digits
    (every : ∀ character ∈ digits, character.isDigit = true)
    (ends : EndsDigits rest) :
    (digits ++ rest).takeWhile Char.isDigit = digits := by
  rw [List.takeWhile_append_of_pos every]
  cases rest with
  | nil => simp
  | cons first rest => simp [List.takeWhile, ends first rfl]

theorem dropWhile_digits
    (every : ∀ character ∈ digits, character.isDigit = true)
    (ends : EndsDigits rest) :
    (digits ++ rest).dropWhile Char.isDigit = rest := by
  have whole : (digits ++ rest).takeWhile Char.isDigit ++
        (digits ++ rest).dropWhile Char.isDigit =
      digits ++ rest := List.takeWhile_append_dropWhile
  rw [takeWhile_digits every ends] at whole
  exact List.append_cancel_left whole

end Number

end RecordSql
