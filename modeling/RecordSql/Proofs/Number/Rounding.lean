import Mathlib.Algebra.Order.Field.Power
import Mathlib.Data.Rat.Floor
import Mathlib.Tactic.FieldSimp
import Mathlib.Tactic.Linarith
import Mathlib.Tactic.NormNum
import Mathlib.Tactic.Positivity
import Mathlib.Tactic.Ring
import RecordSql.Number.Double

/-!
# Rounded quotients

The double nearest to a quotient is at most half a unit in its last place away
from it.  So it has the whole part of the quotient if the next whole number is
further away than that.
-/

namespace RecordSql

/-- The number is further from the next whole number, away from zero, than its
own 2⁵³rd part. -/
def IsApart (number : ℚ) : Prop :=
  |number| < 2 ^ 53 * (⌊|number|⌋ + 1 - |number|)

theorem IsApart.lt {number : ℚ} (apart : IsApart number) :
    |number| < 2 ^ 53 := by
  have least := Int.floor_le |number|
  unfold IsApart at apart
  linarith

/-- The whole number between a number and zero that is nearest to it. -/
def wholePart (number : ℚ) : ℤ :=
  if number < 0 then ⌈number⌉ else ⌊number⌋

theorem zpow_eq_div (base : ℕ) (exponent : ℤ) :
    (base : ℚ) ^ exponent =
      (base ^ exponent.toNat : ℕ) / (base ^ (-exponent).toNat : ℕ) := by
  obtain ⟨power, rfl | rfl⟩ := exponent.eq_nat_or_neg
  · simp
  · simp

namespace Magnitude

/-- What a magnitude denotes. -/
def number (magnitude : Magnitude) : ℚ :=
  magnitude.significand * 2 ^ magnitude.exponent

theorem number_nonneg (magnitude : Magnitude) : 0 ≤ magnitude.number := by
  rw [number]
  positivity

theorem floor_eq (magnitude : Magnitude) :
    (magnitude.floor : ℤ) = ⌊magnitude.number⌋ := by
  have quotient : magnitude.number =
      ((magnitude.significand * 2 ^ magnitude.exponent.toNat : ℕ) : ℚ) /
        ((2 ^ (-magnitude.exponent).toNat : ℕ) : ℚ) := by
    rw [number, Nat.cast_mul, mul_div_assoc, ← zpow_eq_div]
    norm_num
  rw [quotient, Rat.floor_natCast_div_natCast, floor]
  rfl

@[simp] theorem number_zero : zero.number = 0 := by
  simp [number, zero]

@[simp] theorem floor_zero : zero.floor = 0 := by
  have nothing := floor_eq zero
  rw [number_zero, Int.floor_zero] at nothing
  exact_mod_cast nothing

private theorem divideToEven_bounds (numerator : ℕ) {denominator : ℕ}
    (positive : 0 < denominator) :
    2 * (denominator * divideToEven numerator denominator) ≤
        2 * numerator + denominator ∧
      2 * numerator ≤
        2 * (denominator * divideToEven numerator denominator) +
          denominator := by
  have split := Nat.div_add_mod numerator denominator
  have below := Nat.mod_lt numerator positive
  have parity := Nat.mod_two_eq_zero_or_one (numerator / denominator)
  unfold divideToEven
  dsimp only
  split_ifs with down up
  · omega
  · rw [Nat.mul_add, Nat.mul_one]
    omega
  · rcases parity with even | odd
    · rw [even, Nat.add_zero]
      omega
    · rw [odd, Nat.mul_add, Nat.mul_one]
      omega

theorem abs_divideToEven_sub_le (numerator : ℕ) {denominator : ℕ}
    (positive : 0 < denominator) :
    |(divideToEven numerator denominator : ℚ) -
        numerator / denominator| ≤ 1 / 2 := by
  obtain ⟨upper, lower⟩ := divideToEven_bounds numerator positive
  generalize divideToEven numerator denominator = rounded at *
  have denominatorPos : (0 : ℚ) < denominator := by exact_mod_cast positive
  have upper : (2 : ℚ) * (denominator * rounded) ≤
      2 * numerator + denominator := by
    exact_mod_cast upper
  have lower : (2 : ℚ) * numerator ≤
      2 * (denominator * rounded) + denominator := by
    exact_mod_cast lower
  rw [abs_le]
  constructor
  · rw [le_sub_iff_add_le, ← sub_eq_neg_add, sub_le_iff_le_add,
      div_le_iff₀ denominatorPos]
    linarith
  · rw [sub_le_iff_le_add, ← sub_le_iff_le_add', le_div_iff₀ denominatorPos]
    linarith

theorem abs_unitsOf_sub_le (numerator : ℕ) {denominator : ℕ}
    (positive : 0 < denominator) (exponent : ℤ) :
    |(unitsOf numerator denominator exponent : ℚ) -
      numerator / denominator / 2 ^ exponent| ≤ 1 / 2 := by
  have scaled : (numerator / denominator / 2 ^ exponent : ℚ) =
      (numerator * Nat.pow 2 (-exponent).toNat : ℕ) /
        (denominator * Nat.pow 2 exponent.toNat : ℕ) := by
    have power := zpow_eq_div 2 exponent
    rw [Nat.cast_ofNat] at power
    rw [power, div_div_div_eq, ← Nat.cast_mul, ← Nat.cast_mul]
    rfl
  rw [scaled]
  exact abs_divideToEven_sub_le _ (Nat.mul_pos positive (Nat.two_pow_pos _))

section Units

variable {numerator denominator : ℕ}

private theorem two_zpow_log2_le (positive : 0 < numerator) :
    (2 : ℚ) ^ (numerator.log2 : ℤ) ≤ numerator := by
  rw [zpow_natCast]
  exact_mod_cast Nat.log2_self_le (Nat.ne_of_gt positive)

private theorem lt_two_zpow_log2 (numerator : ℕ) :
    (numerator : ℚ) < 2 ^ ((numerator.log2 : ℤ) + 1) := by
  rw [← Nat.cast_one, ← Nat.cast_add, zpow_natCast]
  exact_mod_cast Nat.lt_log2_self

private theorem below_iff (positive : 0 < denominator) (bits : ℤ) :
    numerator * Nat.pow 2 (-bits).toNat < denominator * Nat.pow 2 bits.toNat ↔
      (numerator / denominator : ℚ) < 2 ^ bits := by
  have denominatorPos : (0 : ℚ) < denominator := by exact_mod_cast positive
  have powerPos : (0 : ℚ) < (2 ^ (-bits).toNat : ℕ) := by
    exact_mod_cast Nat.two_pow_pos _
  have power := zpow_eq_div 2 bits
  rw [Nat.cast_ofNat] at power
  rw [power, div_lt_div_iff₀ denominatorPos powerPos,
    mul_comm (_ : ℚ) (denominator : ℚ)]
  exact_mod_cast Iff.rfl

private theorem quotient_bounds (numeratorPos : 0 < numerator)
    (denominatorPos : 0 < denominator) :
    (2 : ℚ) ^ ((numerator.log2 : ℤ) - denominator.log2 - 1) ≤
        numerator / denominator ∧
      (numerator / denominator : ℚ) <
        2 ^ ((numerator.log2 : ℤ) - denominator.log2 + 1) := by
  have two : (2 : ℚ) ≠ 0 := by norm_num
  have positive : (0 : ℚ) < denominator := by exact_mod_cast denominatorPos
  have numeratorLeast := two_zpow_log2_le numeratorPos
  have denominatorLeast := two_zpow_log2_le denominatorPos
  have numeratorBelow := lt_two_zpow_log2 numerator
  have denominatorBelow := lt_two_zpow_log2 denominator
  constructor
  · rw [sub_sub, zpow_sub₀ two]
    gcongr
  · rw [sub_add_eq_add_sub, zpow_sub₀ two]
    exact div_lt_div₀ numeratorBelow denominatorLeast
      (by positivity) (by positivity)

/-- A quotient has at most 53 bits in its units, and fewer only in the
least of all units. -/
theorem unitExponent_spec (numeratorPos : 0 < numerator)
    (denominatorPos : 0 < denominator) :
    -1074 ≤ unitExponent numerator denominator ∧
      (numerator / denominator : ℚ) <
        2 ^ (unitExponent numerator denominator + 53) ∧
      (unitExponent numerator denominator = -1074 ∨
        (2 : ℚ) ^ (unitExponent numerator denominator + 52) ≤
          numerator / denominator) := by
  obtain ⟨least, below⟩ := quotient_bounds numeratorPos denominatorPos
  obtain ⟨exponent, chosen, leastUnits, belowUnits⟩ : ∃ exponent : ℤ,
      unitExponent numerator denominator = max (-1074) exponent ∧
        (2 : ℚ) ^ (exponent + 52) ≤ numerator / denominator ∧
        (numerator / denominator : ℚ) < 2 ^ (exponent + 53) := by
    unfold unitExponent
    dsimp only
    split_ifs with small
    · refine ⟨_, rfl, ?_, ?_⟩
      · rwa [show ((numerator.log2 : ℤ) - denominator.log2 - 53 + 52) =
          (numerator.log2 : ℤ) - denominator.log2 - 1 by ring]
      · rwa [sub_add_cancel, ← below_iff denominatorPos]
    · refine ⟨_, rfl, ?_, ?_⟩
      · rwa [sub_add_cancel, ← not_lt, ← below_iff denominatorPos]
      · rwa [show ((numerator.log2 : ℤ) - denominator.log2 - 52 + 53) =
          (numerator.log2 : ℤ) - denominator.log2 + 1 by ring]
  rw [chosen]
  refine ⟨le_max_left _ _, ?_, ?_⟩
  · refine belowUnits.trans_le (zpow_le_zpow_right₀ (by norm_num) ?_)
    omega
  · rcases le_total exponent (-1074) with least | normal
    · exact .inl (max_eq_left least)
    · rw [max_eq_right normal]
      exact .inr leastUnits

/-- The count of units has 53 bits, or is the least number of 54 bits. -/
private theorem unitsOf_bounds (numeratorPos : 0 < numerator)
    (denominatorPos : 0 < denominator) :
    unitsOf numerator denominator (unitExponent numerator denominator) ≤
        significandBound ∧
      (unitExponent numerator denominator = -1074 ∨ fullSignificand ≤
        unitsOf numerator denominator
          (unitExponent numerator denominator)) := by
  obtain ⟨_, below, normal⟩ := unitExponent_spec numeratorPos denominatorPos
  have near := abs_unitsOf_sub_le numerator denominatorPos
    (unitExponent numerator denominator)
  generalize unitExponent numerator denominator = exponent at *
  generalize unitsOf numerator denominator exponent = units at *
  have unitPos : (0 : ℚ) < 2 ^ exponent := by positivity
  have two : (2 : ℚ) ≠ 0 := by norm_num
  obtain ⟨low, high⟩ := abs_le.mp near
  constructor
  · rw [zpow_add₀ two, mul_comm, ← div_lt_iff₀ unitPos] at below
    norm_num at below
    have bound : (units : ℚ) < 9007199254740993 := by linarith
    exact Nat.lt_succ_iff.mp (by exact_mod_cast bound)
  · refine normal.imp_right fun normal => ?_
    rw [zpow_add₀ two, mul_comm, ← le_div_iff₀ unitPos] at normal
    norm_num at normal
    have bound : (4503599627370495 : ℚ) < units := by linarith
    exact Nat.succ_le_of_lt (by exact_mod_cast bound)

private theorem unitExponent_le (numeratorPos : 0 < numerator)
    (denominatorPos : 0 < denominator) {bits : ℕ}
    (small : (numerator / denominator : ℚ) < 2 ^ bits) :
    unitExponent numerator denominator ≤ max (-1074) ((bits : ℤ) - 53) := by
  obtain ⟨_, _, least | normal⟩ := unitExponent_spec numeratorPos denominatorPos
  · omega
  · have powers := normal.trans_lt small
    rw [← zpow_natCast, zpow_lt_zpow_iff_right₀ (by norm_num)] at powers
    omega

/-- A quotient below two to the 1023rd is rounded to its count of units. -/
private theorem exists_nearest? (numeratorPos : 0 < numerator)
    (denominatorPos : 0 < denominator)
    (small : (numerator / denominator : ℚ) < 2 ^ 1023) :
    ∃ magnitude, nearest? numerator denominator = some magnitude ∧
      magnitude.number =
        unitsOf numerator denominator (unitExponent numerator denominator) *
          2 ^ unitExponent numerator denominator := by
  have greatest := unitExponent_le numeratorPos denominatorPos small
  obtain ⟨least, _, _⟩ := unitExponent_spec numeratorPos denominatorPos
  obtain ⟨atMost, full⟩ := unitsOf_bounds numeratorPos denominatorPos
  unfold nearest?
  rw [if_neg (Nat.ne_of_gt numeratorPos)]
  dsimp only
  generalize unitExponent numerator denominator = exponent at *
  generalize unitsOf numerator denominator exponent = units at *
  have shorter : fullSignificand < significandBound := by decide
  by_cases carry : units = significandBound
  · subst carry
    refine ⟨⟨fullSignificand, exponent + 1, by omega⟩, ?_, ?_⟩
    · rw [dif_pos (by simp; omega)]
      simp
    · rw [number, zpow_add_one₀ (by norm_num)]
      push_cast
      ring
  · refine ⟨⟨units, exponent, by omega⟩, ?_, rfl⟩
    rw [dif_pos (by simp [carry]; omega)]
    simp [carry]

theorem exists_nearest?_of_lt (denominatorPos : 0 < denominator)
    (small : (numerator / denominator : ℚ) < 2 ^ 1023) :
    ∃ magnitude, nearest? numerator denominator = some magnitude := by
  rcases Nat.eq_zero_or_pos numerator with rfl | numeratorPos
  · exact ⟨zero, rfl⟩
  · obtain ⟨magnitude, isNearest, _⟩ :=
      exists_nearest? numeratorPos denominatorPos small
    exact ⟨magnitude, isNearest⟩

/-- Half a unit does not reach from a quotient to the next whole number. -/
private theorem half_unit_lt (numeratorPos : 0 < numerator)
    (denominatorPos : 0 < denominator)
    (apart : IsApart (numerator / denominator)) :
    (2 : ℚ) ^ unitExponent numerator denominator / 2 <
      ⌊(numerator / denominator : ℚ)⌋ + 1 - numerator / denominator := by
  obtain ⟨_, below, normal⟩ := unitExponent_spec numeratorPos denominatorPos
  have nonnegative : (0 : ℚ) ≤ numerator / denominator := by positivity
  generalize unitExponent numerator denominator = exponent at *
  generalize (numerator / denominator : ℚ) = quotient at *
  rw [IsApart, abs_of_nonneg nonnegative] at apart
  rcases normal with rfl | normal
  · have quotientBelow : quotient < 2 ^ (-1 : ℤ) :=
      below.trans_le (zpow_le_zpow_right₀ (by norm_num) (by norm_num))
    have unit : (2 : ℚ) ^ (-1074 : ℤ) ≤ 2 ^ (-1 : ℤ) :=
      zpow_le_zpow_right₀ (by norm_num) (by norm_num)
    have whole : (0 : ℚ) ≤ ⌊quotient⌋ := by
      exact_mod_cast Int.floor_nonneg.mpr nonnegative
    rw [zpow_neg_one] at quotientBelow unit
    generalize (2 : ℚ) ^ (-1074 : ℤ) = least at *
    linarith
  · rw [zpow_add₀ (by norm_num)] at normal
    norm_num at normal apart
    linarith

/-- Units divide one, so a whole number up to the quotient is a whole count of
them, and the count of the quotient is no less. -/
private theorem floor_le_units (denominatorPos : 0 < denominator) {exponent : ℤ}
    (nonpos : exponent ≤ 0) :
    (⌊(numerator / denominator : ℚ)⌋ : ℚ) ≤
      unitsOf numerator denominator exponent * 2 ^ exponent := by
  have near := abs_unitsOf_sub_le numerator denominatorPos exponent
  have least := Int.floor_le (numerator / denominator : ℚ)
  generalize unitsOf numerator denominator exponent = units at *
  generalize (numerator / denominator : ℚ) = quotient at *
  have unitPos : (0 : ℚ) < 2 ^ exponent := by positivity
  obtain ⟨power, same⟩ := Int.eq_ofNat_of_zero_le (neg_nonneg.mpr nonpos)
  obtain rfl : exponent = -power := by omega
  have inUnits : ((⌊quotient⌋ * 2 ^ power : ℤ) : ℚ) =
      ⌊quotient⌋ / 2 ^ (-power : ℤ) := by
    rw [zpow_neg, zpow_natCast, div_inv_eq_mul]
    push_cast
    rfl
  rw [← div_le_iff₀ unitPos, ← inUnits]
  have bound : ((⌊quotient⌋ * 2 ^ power : ℤ) : ℚ) < (units + 1 : ℤ) := by
    have below : (⌊quotient⌋ / 2 ^ (-power : ℤ) : ℚ) ≤
        quotient / 2 ^ (-power : ℤ) := by gcongr
    rw [inUnits]
    push_cast
    linarith [(abs_le.mp near).1]
  exact_mod_cast Int.lt_add_one_iff.mp (by exact_mod_cast bound)

theorem exists_floor_nearest? (denominatorPos : 0 < denominator)
    (apart : IsApart (numerator / denominator)) :
    ∃ magnitude, nearest? numerator denominator = some magnitude ∧
      (magnitude.floor : ℤ) = ⌊(numerator / denominator : ℚ)⌋ := by
  rcases Nat.eq_zero_or_pos numerator with rfl | numeratorPos
  · exact ⟨zero, rfl, by simp⟩
  · have small : (numerator / denominator : ℚ) < 2 ^ 53 :=
      (le_abs_self _).trans_lt apart.lt
    have nonpos : unitExponent numerator denominator ≤ 0 :=
      unitExponent_le numeratorPos denominatorPos small
    have smaller :=
      small.trans (pow_lt_pow_right₀ (by norm_num) (by norm_num : 53 < 1023))
    have near := abs_unitsOf_sub_le numerator denominatorPos
      (unitExponent numerator denominator)
    have half := half_unit_lt numeratorPos denominatorPos apart
    obtain ⟨magnitude, isNearest, denoted⟩ :=
      exists_nearest? numeratorPos denominatorPos smaller
    refine ⟨magnitude, isNearest, ?_⟩
    rw [floor_eq, Int.floor_eq_iff, denoted]
    refine ⟨floor_le_units denominatorPos nonpos, ?_⟩
    have unitPos : (0 : ℚ) < 2 ^ unitExponent numerator denominator := by
      positivity
    have rounded := sub_le_iff_le_add.mp (abs_le.mp near).2
    calc (unitsOf numerator denominator (unitExponent numerator denominator) :
            ℚ) *
          2 ^ unitExponent numerator denominator ≤
      (1 / 2 +
              numerator / denominator /
                2 ^ unitExponent numerator denominator) *
            2 ^ unitExponent numerator denominator := by gcongr
      _ = 2 ^ unitExponent numerator denominator / 2 +
          numerator / denominator := by
          field_simp
      _ < ⌊(numerator / denominator : ℚ)⌋ + 1 := by linarith

end Units

end Magnitude

end RecordSql
