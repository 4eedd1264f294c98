import RecordSql.Json.Reading
import RecordSql.Proofs.Number.Whole

/-!
# Whole numbers of JSON texts

A whole number of 64 bits is read back as it is written, unless what follows
goes on with the number.
-/

namespace RecordSql.Json

open Number

/-- A text does not go on with a number: with a digit, a fraction
or an exponent. -/
def EndsNumber (rest : List Char) : Prop :=
  EndsDigits rest ∧ ∀ character ∈ rest.head?, character ∉ ['.', 'e', 'E']

/-- The whole numbers of 64 bits, with or without sign. -/
def Fits (value : Int) : Prop :=
  leastInt64 ≤ value ∧ value < 18446744073709551616

variable {rest : List Char} {value : Nat}

theorem digits?_digitChars (ends : EndsDigits rest) :
    digits? (digitChars value ++ rest) = some (digitChars value, rest) := by
  have every : ∀ character ∈ digitChars value,
      character.isDigit = true := fun _ =>
    Nat.isDigit_of_mem_toDigits (by decide) (by decide)
  have present : digitChars value ≠ [] := Nat.toDigits_ne_nil
  simp [digits?, takeWhile_digits every ends,
    dropWhile_digits every ends, present]

theorem fraction?_of_ends (ends : EndsNumber rest) :
    fraction? rest = some ([], rest) := by
  unfold fraction?
  split
  · next after =>
      have other := ends.2 '.' rfl
      simp at other
  · rfl

theorem exponent?_of_ends (ends : EndsNumber rest) :
    exponent? rest = some (none, rest) := by
  cases rest with
  | nil => rfl
  | cons first rest =>
      have other := ends.2 first rfl
      have noMark : ¬ (first = 'e' ∨ first = 'E') := by
        simp only [List.mem_cons, List.not_mem_nil, or_false, not_or] at other
        exact not_or.mpr other.2
      unfold exponent?
      exact if_neg noMark

theorem unsigned?_digitChars (negative : Bool) (ends : EndsNumber rest) :
    unsigned? negative (digitChars value ++ rest) =
      some (ofNumberParts negative (digitChars value) [] none, rest) := by
  have canonical :
      ¬ ((digitChars value).head? = some '0' ∧
        (digitChars value).length ≠ 1) := by
    rintro ⟨zero, several⟩
    rw [eq_zero_of_head? zero] at several
    exact several rfl
  simp [unsigned?, digits?_digitChars ends.1, canonical, fraction?_of_ends ends,
    exponent?_of_ends ends]

theorem ofNumberParts_digitChars {negative : Bool} {whole : Int}
    (same : whole = if negative then -(value : Int) else value)
    (fits : Fits whole) (noMinusZero : ¬ (negative = true ∧ value = 0)) :
    ofNumberParts negative (digitChars value) [] none = .integer whole := by
  have digits : Nat.ofDigitChars 10 (digitChars value) 0 = value :=
    Nat.ofDigitChars_ten_toDigits
  subst same
  simp only [ofNumberParts, List.append_nil, digits]
  exact if_pos ⟨rfl, trivial, fits.1, fits.2, noMinusZero⟩

theorem number?_of_isDigit {first : Char} (digit : first.isDigit = true) :
    number? (first :: rest) = unsigned? false (first :: rest) := by
  unfold number?
  split
  · next minus =>
      obtain ⟨rfl, _⟩ := List.cons.inj minus
      cases digit
  · rfl

/-- Numbers are read back whatever follows, if it does not go on
with the number. -/
theorem number?_intChars {whole : Int} (fits : Fits whole)
    (ends : EndsNumber rest) :
    number? (intChars whole ++ rest) = some (.integer whole, rest) := by
  unfold intChars
  split
  · next negative =>
      have same : whole = -(whole.natAbs : Int) := by omega
      have nonzero : whole.natAbs ≠ 0 := by omega
      rw [List.cons_append, number?, unsigned?_digitChars true ends,
        ofNumberParts_digitChars (by simpa using same) fits (by simp [nonzero])]
  · next positive =>
      have same : whole = (whole.natAbs : Int) := by omega
      have read := @unsigned?_digitChars rest whole.natAbs false ends
      rw [ofNumberParts_digitChars (by simpa using same) fits (by simp)] at read
      obtain ⟨first, more, written, digit⟩ := digitChars_starts whole.natAbs
      rw [written, List.cons_append] at read ⊢
      rw [number?_of_isDigit digit, read]

end RecordSql.Json
