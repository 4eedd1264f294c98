import Mathlib.Data.List.TakeWhile
import RecordSql.Number.Text
import RecordSql.Proofs.Number.Rounding
import RecordSql.Proofs.Number.Whole
import RecordSql.Proofs.Text

/-!
# Numbers that texts are written for

A decimal text is written for one number exactly, and is read as the
double nearest to it.
-/

namespace RecordSql

/-- What a decimal denotes. -/
def Decimal.number (decimal : Decimal) : ℚ :=
  decimal.digits * 10 ^ decimal.exponent

theorem Decimal.number_nonneg (decimal : Decimal) : 0 ≤ decimal.number := by
  rw [number]
  positivity

/-- Digits before and after a point, and a power of ten or nothing; some
digit must be there. -/
def Decimal.ofParts? (whole fraction power : List Char) : Option Decimal :=
  if whole ++ fraction = [] then none
  else (Double.exponent? power).map fun exponent =>
    ⟨Nat.ofDigitChars 10 (whole ++ fraction) 0, exponent - fraction.length⟩

/-- The decimal that a text is written for, with or without a point. -/
def Decimal.ofText? (text : List Char) : Option Decimal :=
  match text.dropWhile Char.isDigit with
  | '.' :: after =>
    ofParts? (text.takeWhile Char.isDigit) (after.takeWhile Char.isDigit)
      (after.dropWhile Char.isDigit)
  | rest => ofParts? (text.takeWhile Char.isDigit) [] rest

/-- A size with a sign. -/
def signed (negative : Bool) (size : ℚ) : ℚ := if negative then -size else size

/-- The number that a text with an optional sign is written for. -/
def Number.ofText? : List Char → Option ℚ
  | '-' :: rest => (Decimal.ofText? rest).map fun decimal =>
      signed true decimal.number
  | '+' :: rest => (Decimal.ofText? rest).map fun decimal =>
      signed false decimal.number
  | text => (Decimal.ofText? text).map fun decimal =>
      signed false decimal.number

/-- What a finite double denotes. -/
def Double.number? : Double → Option ℚ
  | .finite negative magnitude => some (signed negative magnitude.number)
  | _ => none

theorem wholePart_signed {size : ℚ} (nonnegative : 0 ≤ size) (negative : Bool) :
    wholePart (signed negative size) = if negative then -⌊size⌋
    else ⌊size⌋ := by
  cases negative with
  | false => exact if_neg (not_lt.mpr nonnegative)
  | true =>
      rcases nonnegative.eq_or_lt with rfl | positive
      · simp [signed, wholePart]
      · simp [signed, wholePart, positive, Int.ceil_neg]

theorem wholePart_intCast (value : ℤ) : wholePart value = value := by
  simp [wholePart]

theorem isApart_signed {size : ℚ} {negative : Bool} :
    IsApart (signed negative size) ↔ IsApart size := by
  cases negative <;> simp [signed, IsApart]

namespace Double

theorem truncate?_eq (double : Double) :
    double.truncate? = double.number?.map wholePart := by
  cases double with
  | nan => rfl
  | infinite => rfl
  | finite negative magnitude =>
      rw [truncate?, magnitude.floor_eq, number?, Option.map_some,
        wholePart_signed magnitude.number_nonneg]

variable {digits : ℕ} {exponent : ℤ}

private theorem number_lt (digits : ℕ) (exponent : ℤ) :
    (Decimal.mk digits exponent).number <
      10 ^ ((Number.digitChars digits).length + exponent : ℤ) := by
  have positive : 0 < (Number.digitChars digits).length :=
    List.length_pos_of_ne_nil Nat.toDigits_ne_nil
  have below : digits < 10 ^ (Number.digitChars digits).length :=
    (Nat.length_toDigits_le_iff (by decide) positive).mp (Nat.le_refl _)
  rw [zpow_add₀ (by norm_num), zpow_natCast, Decimal.number]
  gcongr
  exact_mod_cast below

private theorem le_number (positive : 0 < digits) (exponent : ℤ) :
    10 ^ ((Number.digitChars digits).length + exponent - 1 : ℤ) ≤
      (Decimal.mk digits exponent).number := by
  obtain ⟨others, length⟩ : ∃ others,
    (Number.digitChars digits).length = others + 1 :=
    Nat.exists_eq_add_one.mpr (List.length_pos_of_ne_nil Nat.toDigits_ne_nil)
  have least : 10 ^ others ≤ digits := by
    cases others with
    | zero => exact positive
    | succ others =>
        by_contra short
        have shorter :=
          (Nat.length_toDigits_le_iff (by decide) (Nat.succ_pos others)).mpr
            (Nat.lt_of_not_le short)
        rw [Number.digitChars] at length
        omega
  rw [length, Nat.cast_add, Nat.cast_one, add_right_comm, add_sub_cancel_right,
    zpow_add₀ (by norm_num), zpow_natCast, Decimal.number]
  gcongr
  exact_mod_cast least

private theorem number_of_quotient (digits : ℕ) (exponent : ℤ) :
    ((digits * Nat.pow 10 exponent.toNat : ℕ) /
        (Nat.pow 10 (-exponent).toNat : ℕ) : ℚ) =
      (Decimal.mk digits exponent).number := by
  have power := zpow_eq_div 10 exponent
  rw [Nat.cast_ofNat] at power
  rw [Decimal.number, power, Nat.cast_mul, mul_div_assoc]
  rfl

/-- A number that is taken for zero has no whole part, and one that is taken for
an infinity is too large to be apart. -/
theorem exists_floor_ofDecimal (negative : Bool) {decimal : Decimal}
    (apart : IsApart decimal.number) :
    ∃ magnitude, ofDecimal negative decimal.digits decimal.exponent =
        .finite negative magnitude ∧
      (magnitude.floor : ℤ) = ⌊decimal.number⌋ := by
  have nonnegative := decimal.number_nonneg
  obtain ⟨digits, exponent⟩ := decimal
  unfold ofDecimal
  dsimp only
  split_ifs with tiny large
  · refine ⟨.zero, rfl, ?_⟩
    rw [Magnitude.floor_zero, eq_comm, Nat.cast_zero, Int.floor_eq_zero_iff]
    refine ⟨nonnegative, ?_⟩
    rcases tiny with rfl | tiny
    · simp [Decimal.number]
    · refine (number_lt digits exponent).trans_le
        (zpow_le_one_of_nonpos₀ (by norm_num) ?_)
      omega
  · have positive : 0 < digits :=
      Nat.pos_of_ne_zero fun zero => tiny (.inl zero)
    have below := apart.lt
    rw [abs_of_nonneg nonnegative] at below
    have least : (10 : ℚ) ^ (16 : ℤ) ≤ (Decimal.mk digits exponent).number :=
      (zpow_le_zpow_right₀ (by norm_num) (by omega)).trans
        (le_number positive exponent)
    norm_num at below least
    linarith
  · have positive : 0 < Nat.pow 10 (-exponent).toNat := Nat.pow_pos (by decide)
    rw [← number_of_quotient] at apart ⊢
    obtain ⟨magnitude, isNearest, whole⟩ :=
      Magnitude.exists_floor_nearest? positive apart
    refine ⟨magnitude, ?_, whole⟩
    rw [ofQuotient, isNearest]

/-- A whole number of at most 19 digits is read as a finite double. -/
private theorem exists_ofDecimal_whole (negative : Bool) {size : ℕ}
    (small : size < 10 ^ 19) :
    ∃ magnitude, ofDecimal negative size 0 = .finite negative magnitude := by
  have atMost : (Number.digitChars size).length ≤ 19 :=
    (Nat.length_toDigits_le_iff (by decide) (by decide)).mpr small
  unfold ofDecimal
  dsimp only
  split_ifs with tiny large
  · exact ⟨.zero, rfl⟩
  · omega
  · have bounded :
        ((size * Nat.pow 10 (0 : ℤ).toNat : ℕ) /
            (Nat.pow 10 (-0 : ℤ).toNat : ℕ) : ℚ) <
          2 ^ 1023 := by
      have below : (size : ℚ) < 10 ^ 19 := by exact_mod_cast small
      have power : (10 : ℚ) ^ 19 < 2 ^ 64 := by norm_num
      rw [number_of_quotient, Decimal.number, zpow_zero, mul_one]
      exact (below.trans power).trans_le
        (pow_le_pow_right₀ (by norm_num) (by norm_num))
    have positive : 0 < Nat.pow 10 (-0 : ℤ).toNat := Nat.pow_pos (by decide)
    obtain ⟨magnitude, isNearest⟩ :=
      Magnitude.exists_nearest?_of_lt positive bounded
    exact ⟨magnitude, by rw [ofQuotient, isNearest]⟩

end Double

namespace Double

variable {text : List Char} {negative : Bool}

private theorem map_ofParts? (negative : Bool)
    (whole fraction power : List Char) :
    (if whole.isEmpty && fraction.isEmpty then none
      else (exponent? power).map fun exponent =>
        ofDecimal negative (Nat.ofDigitChars 10 (whole ++ fraction) 0)
          (exponent - fraction.length)) =
      (Decimal.ofParts? whole fraction power).map fun decimal =>
        ofDecimal negative decimal.digits decimal.exponent := by
  simp only [Decimal.ofParts?, Bool.and_eq_true, List.isEmpty_iff,
    List.append_eq_nil_iff]
  split_ifs
  · rfl
  · rw [Option.map_map]
    rfl

private theorem unsignedDecimal?_eq (negative : Bool) (text : List Char) :
    unsignedDecimal? negative text =
      (Decimal.ofText? text).map fun decimal =>
        ofDecimal negative decimal.digits decimal.exponent := by
  unfold unsignedDecimal? Decimal.ofText?
  generalize text.takeWhile Char.isDigit = whole,
    text.dropWhile Char.isDigit = rest
  cases rest with
  | nil => exact map_ofParts? negative whole [] []
  | cons first rest =>
      by_cases point : first = '.'
      · subst point
        exact map_ofParts? negative whole _ _
      · simpa [point] using map_ofParts? negative whole [] (first :: rest)

/-- A decimal begins with a digit or with a point. -/
private theorem starts_of_decimal {decimal : Decimal}
    (isDecimal : Decimal.ofText? text = some decimal) :
    ∃ first rest, text = first :: rest ∧
      (first.isDigit = true ∨ first = '.') := by
  cases text with
  | nil => cases isDecimal
  | cons first rest =>
      refine ⟨first, rest, rfl, ?_⟩
      by_contra! other
      obtain ⟨notDigit, notPoint⟩ := other
      simp [Decimal.ofText?, Decimal.ofParts?, notDigit, notPoint] at isDecimal

private theorem map_toLower_ne {decimal : Decimal}
    (isDecimal : Decimal.ofText? text = some decimal) {letter : Char}
    {word : List Char} (notDigit : letter.isDigit = false)
    (notPoint : letter ≠ '.') : text.map Char.toLower ≠ letter :: word := by
  obtain ⟨first, rest, rfl, digit | rfl⟩ := starts_of_decimal isDecimal
  · intro same
    have lowered := Text.toLower_eq_self (Text.isAlpha_of_isDigit digit)
    rw [← (List.cons.inj same).1, lowered, digit] at notDigit
    cases notDigit
  · intro same
    exact notPoint (List.cons.inj same).1.symm

private theorem unsigned?_of_decimal {decimal : Decimal}
    (isDecimal : Decimal.ofText? text = some decimal) :
    unsigned? negative text =
      some (ofDecimal negative decimal.digits decimal.exponent) := by
  simp [unsigned?, map_toLower_ne isDecimal, unsignedDecimal?_eq, isDecimal]

private theorem exists_decimal_of_unsigned? {whole : Int}
    (truncated : (unsigned? negative text).bind truncate? = some whole) :
    ∃ decimal, Decimal.ofText? text = some decimal := by
  unfold unsigned? at truncated
  dsimp only at truncated
  split_ifs at truncated
  · cases truncated
  · cases truncated
  · rw [unsignedDecimal?_eq] at truncated
    cases isDecimal : Decimal.ofText? text with
    | none =>
        rw [isDecimal] at truncated
        cases truncated
    | some decimal => exact ⟨decimal, rfl⟩

end Double

/-- A whole numeral is a decimal without a point or a power of ten. -/
private theorem Decimal.ofText?_of_digits {text : List Char} {size : ℕ}
    (digits : Number.natOfDigits? text = some size) :
    ofText? text = some ⟨size, 0⟩ := by
  unfold Number.natOfDigits? at digits
  split_ifs at digits with empty every
  cases digits
  have whole := List.takeWhile_eq_self_iff.mpr (List.all_eq_true.mp every)
  have rest := List.dropWhile_eq_nil_iff.mpr (List.all_eq_true.mp every)
  rw [List.isEmpty_iff] at empty
  simp [ofText?, ofParts?, whole, rest, empty, Double.exponent?]

namespace Number

variable {text : List Char}

/-- All readers agree on the sign. -/
private theorem exists_sign (text : List Char) :
    ∃ negative rest, Double.ofText? text = Double.unsigned? negative rest ∧
      ofText? text = (Decimal.ofText? rest).map
        (fun decimal => signed negative decimal.number) ∧
      ∀ value, signed? text = some value →
        ∃ size : ℕ, natOfDigits? rest = some size ∧
          signed negative size = value := by
  have positive : ∀ {rest : List Char} {value : Int},
      (natOfDigits? rest).map Int.ofNat = some value →
        ∃ size : ℕ, natOfDigits? rest = some size ∧
          signed false size = value := by
    intro rest value read
    obtain ⟨size, sizeRead, rfl⟩ := Option.map_eq_some_iff.mp read
    exact ⟨size, sizeRead, rfl⟩
  cases text with
  | nil => exact ⟨false, [], rfl, rfl, fun _ read => positive read⟩
  | cons first rest =>
      by_cases minus : first = '-'
      · subst minus
        refine ⟨true, rest, rfl, rfl, fun value read => ?_⟩
        obtain ⟨_, sizeRead, rfl⟩ := Option.map_eq_some_iff.mp read
        obtain ⟨size, digits, same⟩ := Option.bind_eq_some_iff.mp sizeRead
        cases same
        exact ⟨size, digits, by simp [signed]⟩
      by_cases plus : first = '+'
      · subst plus
        exact ⟨false, rest, rfl, rfl, fun _ read => positive read⟩
      · refine ⟨false, first :: rest, ?_, ?_, fun value read => positive ?_⟩
        · simp [Double.ofText?, minus, plus]
        · simp [ofText?, minus, plus]
        · simpa [signed?, minus, plus] using read

theorem ofText?_of_signed? {value : Int} (whole : signed? text = some value) :
    ofText? text = some (value : ℚ) := by
  obtain ⟨negative, rest, _, read, sizes⟩ := exists_sign text
  obtain ⟨size, digits, same⟩ := sizes value whole
  rw [read, Decimal.ofText?_of_digits digits, Option.map_some, ← same]
  simp [Decimal.number]

/-- A text that is written for a number is read as the double nearest to it. -/
theorem exists_decimal {number : ℚ} (written : ofText? text = some number) :
    ∃ (negative : Bool) (decimal : Decimal),
      number = signed negative decimal.number ∧
        Double.ofText? text =
          some (.ofDecimal negative decimal.digits decimal.exponent) := by
  obtain ⟨negative, rest, asDouble, read, _⟩ := exists_sign text
  rw [read] at written
  obtain ⟨decimal, isDecimal, rfl⟩ := Option.map_eq_some_iff.mp written
  exact ⟨negative, decimal, rfl,
    asDouble.trans (Double.unsigned?_of_decimal isDecimal)⟩

/-- A numeral of 64 bits is read as a finite double too. -/
theorem exists_finite_of_int64? {value : Int64}
    (whole : int64? text = some value) :
    ∃ negative magnitude,
      Double.ofText? text = some (.finite negative magnitude) := by
  obtain ⟨number, isNumeral, fits⟩ := Option.bind_eq_some_iff.mp whole
  obtain ⟨negative, rest, asDouble, _, sizes⟩ := exists_sign text
  obtain ⟨size, digits, same⟩ := sizes number isNumeral
  have small : size < 10 ^ 19 := by
    unfold toInt64? leastInt64 greatestInt64 at fits
    split_ifs at fits with bounds
    cases negative with
    | false =>
        have equal : (size : ℚ) = number := same
        have equal : (size : ℤ) = number := by exact_mod_cast equal
        omega
    | true =>
        have equal : -(size : ℚ) = number := same
        have equal : -(size : ℤ) = number := by exact_mod_cast equal
        omega
  obtain ⟨magnitude, isFinite⟩ := Double.exists_ofDecimal_whole negative small
  refine ⟨negative, magnitude, ?_⟩
  rw [asDouble,
    Double.unsigned?_of_decimal (Decimal.ofText?_of_digits digits), isFinite]

theorem exists_number_of_truncate? {whole : Int}
    (truncated : (Double.ofText? text).bind Double.truncate? = some whole) :
    ∃ number, ofText? text = some number := by
  obtain ⟨negative, rest, asDouble, read, _⟩ := exists_sign text
  rw [asDouble] at truncated
  obtain ⟨decimal, isDecimal⟩ := Double.exists_decimal_of_unsigned? truncated
  exact ⟨_, by rw [read, isDecimal, Option.map_some]⟩

theorem truncate?_ofText? {number : ℚ} (written : ofText? text = some number)
    (apart : IsApart number) :
    (Double.ofText? text).bind Double.truncate? = some (wholePart number) := by
  obtain ⟨negative, decimal, rfl, asDouble⟩ := exists_decimal written
  obtain ⟨magnitude, isFinite, whole⟩ :=
    Double.exists_floor_ofDecimal negative (isApart_signed.mp apart)
  rw [asDouble, Option.bind_some, isFinite, Double.truncate?, whole,
    wholePart_signed decimal.number_nonneg]

end Number

end RecordSql
