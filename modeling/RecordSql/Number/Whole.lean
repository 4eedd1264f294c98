/-!
# Whole numbers as text

Readers for decimal whole numbers. A sign is one plus or minus before at least
one digit; leading zeros are allowed and nothing else is.
-/

namespace RecordSql.Number

/-- The number that a non-empty run of decimal digits stands for. -/
def natOfDigits? (text : List Char) : Option Nat :=
  if text.isEmpty then none
  else if text.all Char.isDigit then some (Nat.ofDigitChars 10 text 0)
  else none

/-- Reads digits after an optional plus, as a number below the limit. -/
def unsigned? (limit : Nat) (text : List Char) : Option Nat :=
  let digits :=
    match text with
    | '+' :: rest => rest
    | _ => text
  (natOfDigits? digits).filter (· < limit)

/-- Reads digits after an optional sign, of any length. -/
def signed? (text : List Char) : Option Int :=
  match text with
  | '-' :: rest => (natOfDigits? rest).map fun value => -(value : Int)
  | '+' :: rest => (natOfDigits? rest).map Int.ofNat
  | _ => (natOfDigits? text).map Int.ofNat

abbrev leastInt64 : Int := -9223372036854775808

abbrev greatestInt64 : Int := 9223372036854775807

/-- The 64-bit number equal to a whole number, if there is one. -/
def toInt64? (value : Int) : Option Int64 :=
  if leastInt64 ≤ value ∧ value ≤ greatestInt64 then some (Int64.ofInt value)
  else none

/-- The 64-bit number nearest to a whole number. -/
def clampInt64 (value : Int) : Int64 :=
  if value < leastInt64 then Int64.ofInt leastInt64
  else if greatestInt64 < value then Int64.ofInt greatestInt64
  else Int64.ofInt value

def int64? (text : List Char) : Option Int64 :=
  (signed? text).bind toInt64?

def nat32? (text : List Char) : Option Nat :=
  unsigned? 4294967296 text

def int32? (text : List Char) : Option Int :=
  (signed? text).filter fun value =>
    decide (-2147483648 ≤ value ∧ value < 2147483648)

def digitChars (value : Nat) : List Char :=
  Nat.toDigits 10 value

def intChars (value : Int) : List Char :=
  if value < 0 then '-' :: digitChars value.natAbs else digitChars value.natAbs

def int64Text (value : Int64) : String :=
  String.ofList (intChars value.toInt)

def natText (value : Nat) : String :=
  String.ofList (digitChars value)

/-- Digits filled up to a width with leading copies of a character. -/
def padLeft (width : Nat) (fill : Char) (text : List Char) : List Char :=
  List.replicate (width - text.length) fill ++ text

end RecordSql.Number
