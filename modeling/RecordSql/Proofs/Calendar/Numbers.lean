import RecordSql.Calendar.Pattern.Reading
import RecordSql.Calendar.Pattern.Rendering
import RecordSql.Proofs.Number.Whole

/-!
# Numbers of dates and times

Years and two-digit numbers are read back as they are written, whatever follows,
as long as a year is not followed by more digits.
-/

namespace RecordSql

open Number

variable {year : Int} {value : Nat} {rest : List Char}

namespace Reading

/-- Digits are read up to their number or to the first that is none. -/
theorem number?_digits {digits : List Char} {least most : Nat}
    (every : ∀ character ∈ digits, character.isDigit = true)
    (present : digits ≠ []) (enough : least ≤ digits.length)
    (fits : digits.length ≤ most)
    (ends : digits.length = most ∨ EndsDigits rest) :
    number? least most (digits ++ rest) =
      some (Nat.ofDigitChars 10 digits 0, rest) := by
  have taken : ((digits ++ rest).take most).takeWhile Char.isDigit =
      digits := by
    rw [List.take_append, List.take_of_length_le fits]
    apply takeWhile_digits every
    rcases ends with full | ends
    · simp [EndsDigits, full]
    · intro character first
      cases rest with
      | nil => simp at first
      | cons head rest =>
          apply ends character
          rw [List.head?_take] at first
          split at first
          · cases first
          · exact first
  have counted : ¬ digits.length < least := Nat.not_lt.mpr enough
  simp [number?, taken, present, counted]

theorem number?_padLeft {least width : Nat} (positive : 0 < width)
    (enough : least ≤ width) (fits : value < Nat.pow 10 width) :
    number? least width (padLeft width '0' (digitChars value) ++ rest) =
      some (value, rest) := by
  have full := length_padLeft positive fits
  rw [number?_digits (fun _ => isDigit_of_mem_padLeft) padLeft_ne_nil
    (by rwa [full]) (Nat.le_of_eq full) (.inl full), ofDigitChars_padLeft]

theorem longNumber?_padLeft {width : Nat}
    (bounded : (value : Int) ≤ greatestInt64) (ends : EndsDigits rest) :
    longNumber? (padLeft width '0' (digitChars value) ++ rest) =
      some (value, rest) := by
  have enough : 1 ≤ (padLeft width '0' (digitChars value)).length :=
    List.length_pos_iff.mpr padLeft_ne_nil
  rw [longNumber?, number?_digits
    (fun _ => isDigit_of_mem_padLeft) padLeft_ne_nil enough
    (by simp) (.inr ends), ofDigitChars_padLeft]
  simp [Option.filter, bounded]

theorem number?_twoDigits (below : value < 100) :
    number? 1 2 (twoDigits value ++ rest) = some (value, rest) :=
  number?_padLeft (by decide) (by decide) below

private theorem year?_of_isDigit {first : Char} {text : List Char}
    (digit : first.isDigit = true) : year? (first :: text) =
      (number? 1 4 (first :: text)).map fun (value, rest) =>
        ((value : Int), rest) := by
  unfold year?
  split
  · next same =>
      obtain ⟨rfl, _⟩ := List.cons.inj same
      cases digit
  · next same =>
      obtain ⟨rfl, _⟩ := List.cons.inj same
      cases digit
  · rfl

theorem year?_yearChars (bounded : (year.natAbs : Int) ≤ greatestInt64)
    (ends : EndsDigits rest) :
    year? (yearChars year ++ rest) = some (year, rest) := by
  unfold yearChars
  split
  · next short =>
      obtain ⟨first, digits, written, digit⟩ := padLeft_starts 4 year.natAbs
      have fits : year.natAbs < 10000 := by omega
      have same : (year.natAbs : Int) = year := by omega
      have read := @number?_padLeft _ rest 1 4 (by decide) (by decide) fits
      rw [written] at read ⊢
      rw [List.cons_append, year?_of_isDigit digit, ← List.cons_append, read]
      simp [same]
  · have read := @longNumber?_padLeft _ _ 4 bounded ends
    by_cases negative : year < 0
    · have same : -(year.natAbs : Int) = year := by omega
      simp only [signChar, negative, if_true, List.cons_append, year?, read,
        Option.map_some, same]
    · have same : (year.natAbs : Int) = year := by omega
      simp only [signChar, negative, if_false, List.cons_append, year?, read,
        Option.map_some, same]

end Reading

theorem isBlank_of_isDigit {character : Char}
    (digit : character.isDigit = true) : Text.isBlank character = false := by
  simp only [Char.isDigit, Bool.and_eq_true, decide_eq_true_eq] at digit
  have least : 48 ≤ character.toNat := digit.1
  have most : character.toNat ≤ 57 := digit.2
  simp only [Text.isBlank, Bool.or_eq_false_iff, Bool.and_eq_false_iff,
    decide_eq_false_iff_not]
  omega

theorem twoDigits_starts (value : Nat) :
    ∃ first more, twoDigits value = first :: more ∧
      Text.isBlank first = false := by
  obtain ⟨first, more, written, digit⟩ := padLeft_starts 2 value
  exact ⟨first, more, written, isBlank_of_isDigit digit⟩

theorem twoDigits_ends (value : Nat) :
    ∃ before last, twoDigits value = before ++ [last] ∧
      Text.isBlank last = false := by
  have present := @padLeft_ne_nil 2 value
  exact ⟨_, _, (List.dropLast_append_getLast present).symm,
    isBlank_of_isDigit (isDigit_of_mem_padLeft (List.getLast_mem present))⟩

theorem yearChars_starts (year : Int) :
    ∃ first more, yearChars year = first :: more ∧
      Text.isBlank first = false := by
  unfold yearChars
  split
  · obtain ⟨first, more, written, digit⟩ := padLeft_starts 4 year.natAbs
    exact ⟨first, more, written, isBlank_of_isDigit digit⟩
  · refine ⟨signChar year, _, rfl, ?_⟩
    unfold signChar
    split <;> decide

theorem isBlank_of_mem_padLeft {width : Nat} {character : Char}
    (member : character ∈ padLeft width '0' (digitChars value)) :
    Text.isBlank character = false :=
  isBlank_of_isDigit (isDigit_of_mem_padLeft member)

theorem isBlank_of_mem_yearChars {character : Char}
    (member : character ∈ yearChars year) : Text.isBlank character = false := by
  unfold yearChars at member
  split at member
  · exact isBlank_of_mem_padLeft member
  · rcases List.mem_cons.mp member with rfl | digit
    · unfold signChar
      split <;> decide
    · exact isBlank_of_mem_padLeft digit

theorem isBlank_of_mem_fractionChars {character : Char}
    (member : character ∈ fractionChars value) :
    Text.isBlank character = false := by
  have point : Text.isBlank '.' = false := by decide
  unfold fractionChars at member
  split_ifs at member
  · cases member
  all_goals
    rcases List.mem_cons.mp member with rfl | digit
    · exact point
    · exact isBlank_of_mem_padLeft digit

namespace PatternItem

theorem yearNumberChars_zero (year : Int) :
    yearNumberChars .zero year = yearChars year := by
  by_cases short : 0 ≤ year ∧ year ≤ 9999
  · have unsigned : 0 ≤ year ∧ year < 10000 := by omega
    have positive : ¬ year < 0 := by omega
    simp [yearNumberChars, numberChars, yearChars, short, unsigned, positive]
  · have signed : ¬ (0 ≤ year ∧ year < 10000) := by omega
    simp [yearNumberChars, numberChars, yearChars, short, signed]

theorem columnPair_zero (value : Nat) (below : value < 100) :
    columnPair .zero value = twoDigits value := by
  revert value
  decide

end PatternItem

end RecordSql
