import RecordSql.Number.Whole

/-!
# Double-precision numbers

A double by what it denotes: a signed multiple of a power of two, an infinity,
or no number. Rounding, truncation and comparison are exact arithmetic on whole
numbers, so every result is determined by this file alone.
-/

namespace RecordSql

/-- Two to the 53rd: significands lie below it. -/
abbrev significandBound : Nat := 9007199254740992

/-- Two to the 52nd, the least significand of 53 bits. -/
abbrev fullSignificand : Nat := 4503599627370496

/-- A non-negative double: `significand` units of two to the `exponent`. -/
structure Magnitude where
  significand : Nat
  exponent : Int
  canonical : significand < significandBound ∧ -1074 ≤ exponent ∧
    exponent ≤ 971 ∧
    (exponent = -1074 ∨ fullSignificand ≤ significand)
  deriving DecidableEq

namespace Magnitude

def zero : Magnitude := ⟨0, -1074, by decide⟩

/-- The quotient rounded to the nearest whole number, a half to the even one. -/
def divideToEven (numerator denominator : Nat) : Nat :=
  let quotient := numerator / denominator
  let twice := 2 * (numerator % denominator)
  if twice < denominator then quotient
  else if denominator < twice then quotient + 1
  else quotient + quotient % 2

/-- A quotient in units of two to the `exponent`, rounded. -/
def unitsOf (numerator denominator : Nat) (exponent : Int) : Nat :=
  divideToEven (numerator * Nat.pow 2 (-exponent).toNat)
    (denominator * Nat.pow 2 exponent.toNat)

/-- The exponent of the units in which a positive quotient has 53 bits, or the
least exponent where it has fewer. -/
def unitExponent (numerator denominator : Nat) : Int :=
  let bits : Int := (numerator.log2 : Int) - denominator.log2
  let below :=
    numerator * Nat.pow 2 (-bits).toNat < denominator * Nat.pow 2 bits.toNat
  max (-1074) (if below then bits - 53 else bits - 52)

/-- The nearest magnitude to a quotient, ties to the even significand; none when
the quotient rounds beyond the greatest one. -/
def nearest? (numerator denominator : Nat) : Option Magnitude :=
  if numerator = 0 then some zero
  else
    let exponent := unitExponent numerator denominator
    let units := unitsOf numerator denominator exponent
    let significand :=
      if units = significandBound then fullSignificand else units
    let exponent := if units = significandBound then exponent + 1 else exponent
    if canonical : significand < significandBound ∧ -1074 ≤ exponent ∧
        exponent ≤ 971 ∧
        (exponent = -1074 ∨ fullSignificand ≤ significand) then
      some ⟨significand, exponent, canonical⟩
    else none

def floor (magnitude : Magnitude) : Nat :=
  magnitude.significand * Nat.pow 2 magnitude.exponent.toNat /
    Nat.pow 2 (-magnitude.exponent).toNat

end Magnitude

inductive Double where
  | nan
  | infinite (negative : Bool)
  | finite (negative : Bool) (magnitude : Magnitude)
  deriving DecidableEq

namespace Double

def zero : Double := .finite false .zero

def one : Double := .finite false ⟨fullSignificand, -52, by decide⟩

def isFinite : Double → Bool
  | .finite _ _ => true
  | _ => false

def isZero : Double → Bool
  | .finite _ magnitude => magnitude.significand == 0
  | _ => false

/-- Numeric equality: zeros of both signs are equal, and no number
equals nothing. -/
def equals : Double → Double → Bool
  | .finite leftNegative left, .finite rightNegative right =>
    left == right && (left.significand == 0 || leftNegative == rightNegative)
  | .infinite left, .infinite right => left == right
  | _, _ => false

/-- The double nearest to a signed quotient. -/
def ofQuotient (negative : Bool) (numerator denominator : Nat) : Double :=
  match Magnitude.nearest? numerator denominator with
  | some magnitude => .finite negative magnitude
  | none => .infinite negative

def ofInt (value : Int) : Double :=
  ofQuotient (value < 0) value.natAbs 1

/-- The double nearest to `digits` times ten to the `exponent`. A decimal far
beyond either end of the range is settled before its power of ten is formed. -/
def ofDecimal (negative : Bool) (digits : Nat) (exponent : Int) : Double :=
  let size : Int := (Number.digitChars digits).length + exponent
  if digits = 0 ∨ size < -330 then .finite negative .zero
  else if 310 < size then .infinite negative
  else ofQuotient negative (digits * Nat.pow 10 exponent.toNat)
    (Nat.pow 10 (-exponent).toNat)

/-- The whole number between a finite double and zero that is nearest to it. -/
def truncate? : Double → Option Int
  | .finite negative magnitude =>
    some (if negative then -(magnitude.floor : Int) else magnitude.floor)
  | _ => none

end Double

end RecordSql
