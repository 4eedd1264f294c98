import RecordSql.Number.Double

/-!
# Shortest decimals

The decimal with the fewest digits that reads back as a given magnitude, and of
those the nearest one. Two of them can be equally near; a rule picks one.
-/

namespace RecordSql

/-- A decimal number: `digits` times ten to the `exponent`. -/
structure Decimal where
  digits : Nat
  exponent : Int
  deriving DecidableEq

namespace Decimal

/-- The same number with no trailing zero among its digits; the fuel is the
number of zeros that may be dropped. -/
def dropZeros : Nat → Decimal → Decimal
  | 0, decimal => decimal
  | fuel + 1, decimal =>
    if decimal.digits % 10 = 0 then
      dropZeros fuel ⟨decimal.digits / 10, decimal.exponent + 1⟩
    else decimal

end Decimal

/-- Which of two neighbours that are equally near is taken. -/
inductive TieRule where
  | greater
  | even
  deriving DecidableEq

/-- Whether the upper neighbour is taken, given the digits of the lower one. -/
def TieRule.takesUpper : TieRule → Nat → Bool
  | greater, _ => true
  | even, lower => lower % 2 == 1

namespace Magnitude

/-- The order of a decimal and a multiple of two to a power. -/
def compareDecimal (decimal : Decimal) (units : Nat)
    (exponent : Int) : Ordering :=
  compare (decimal.digits * Nat.pow 10 decimal.exponent.toNat *
    Nat.pow 2 (-exponent).toNat)
    (units * Nat.pow 2 exponent.toNat * Nat.pow 10 (-decimal.exponent).toNat)

/-- Whether a decimal rounds to the magnitude. The borders are half a unit away,
but a quarter below a power of two, and belong to an even significand. -/
def roundsTo (magnitude : Magnitude) (decimal : Decimal) : Bool :=
  let isPower :=
    magnitude.significand = fullSignificand ∧ -1074 < magnitude.exponent
  let lower := 4 * magnitude.significand - (if isPower then 1 else 2)
  let upper := 4 * magnitude.significand + 2
  let even := magnitude.significand % 2 == 0
  let aboveLower := compareDecimal decimal lower (magnitude.exponent - 2)
  let belowUpper := compareDecimal decimal upper (magnitude.exponent - 2)
  (aboveLower == .gt || (even && aboveLower == .eq)) &&
    (belowUpper == .lt || (even && belowUpper == .eq))

def countOf (magnitude : Magnitude) (exponent : Int) : Nat :=
  magnitude.significand * Nat.pow 2 magnitude.exponent.toNat *
    Nat.pow 10 (-exponent).toNat /
    (Nat.pow 2 (-magnitude.exponent).toNat * Nat.pow 10 exponent.toNat)

/-- The multiple of a power of ten that rounds to the magnitude, of
two the nearer. -/
def decimalAt? (magnitude : Magnitude) (rule : TieRule) (exponent : Int) :
    Option Decimal :=
  let below : Decimal := ⟨magnitude.countOf exponent, exponent⟩
  let above : Decimal := ⟨below.digits + 1, exponent⟩
  match magnitude.roundsTo below, magnitude.roundsTo above with
  | false, false => none
  | true, false => some below
  | false, true => some above
  | true, true =>
    let middle : Decimal := ⟨2 * below.digits + 1, exponent⟩
    match compareDecimal middle
        (2 * magnitude.significand) magnitude.exponent with
    | .lt => some above
    | .gt => some below
    | .eq => some (if rule.takesUpper below.digits then above else below)

/-- The number of digits before the decimal point, negative for a fraction that
starts with zeros. -/
def decimalSize (magnitude : Magnitude) : Int :=
  let shift := (-magnitude.exponent).toNat
  let digits :=
    magnitude.significand * Nat.pow 2 magnitude.exponent.toNat * Nat.pow 5 shift
  (Number.digitChars digits).length - shift

/-- Looks for a decimal on finer and finer grids, at most so many times. -/
def shortestFrom (magnitude : Magnitude) (rule : TieRule) : Nat → Int → Decimal
  | 0, exponent => ⟨magnitude.countOf exponent, exponent⟩
  | tries + 1, exponent =>
    match magnitude.decimalAt? rule exponent with
    | some decimal => decimal
    | none => shortestFrom magnitude rule tries (exponent - 1)

/-- The shortest decimal that rounds to the magnitude. Seventeen digits are
always enough. -/
def shortest (magnitude : Magnitude) (rule : TieRule) : Decimal :=
  if magnitude.significand = 0 then ⟨0, 0⟩
  else (magnitude.shortestFrom rule 17 (magnitude.decimalSize - 1)).dropZeros 17

end Magnitude

end RecordSql
