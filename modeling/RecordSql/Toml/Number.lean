import RecordSql.Calendar.Time
import RecordSql.Text.Hex
import RecordSql.Toml

/-!
# Numbers, dates and times of TOML

Each reader takes what it reads from the start of the text and returns the rest.
Underscores may stand between two digits of a number and mean nothing.
-/

namespace RecordSql.Toml

/-- Reads digits of a class, at least one; underscores between
them are left out. -/
def digits? (test : Char → Bool) : List Char → Option (List Char × List Char)
  | [] => none
  | digit :: '_' :: rest =>
    if test digit then (digits? test rest).map fun (digits, rest) =>
      (digit :: digits, rest)
    else none
  | digit :: rest =>
    if test digit then
      match digits? test rest with
      | some (digits, rest) => some (digit :: digits, rest)
      | none => some ([digit], rest)
    else none

def sign : List Char → Bool × List Char
  | '-' :: rest => (true, rest)
  | '+' :: rest => (false, rest)
  | text => (false, text)

/-- Reads the digits of a whole number: zero alone, or some that do not
start with zero. -/
def whole? : List Char → Option (List Char × List Char)
  | '0' :: rest => some (['0'], rest)
  | text => digits? Char.isDigit text

def ofDigits (base : Nat) (digits : List Char) : Nat :=
  digits.foldl
    (fun value digit => base * value + ((Text.hexValue? digit).getD 0)) 0

def integerOf? (value : Int) : Option Toml :=
  (Number.toInt64? value).map .integer

def inBase? (base : Nat) (text : List Char) : Option (Toml × List Char) := do
  let isDigit := fun digit => (Text.hexValue? digit).any (· < base)
  let (digits, rest) ← digits? isDigit text
  let value ← integerOf? (ofDigits base digits)
  pure (value, rest)

def integer? : List Char → Option (Toml × List Char)
  | '0' :: 'x' :: rest => inBase? 16 rest
  | '0' :: 'o' :: rest => inBase? 8 rest
  | '0' :: 'b' :: rest => inBase? 2 rest
  | text => do
    let (negative, rest) := sign text
    let (digits, rest) ← whole? rest
    let size : Int := ofDigits 10 digits
    let value ← integerOf? (if negative then -size else size)
    pure (value, rest)

def exponent? : List Char → Option (Int × List Char)
  | mark :: rest =>
    if mark = 'e' ∨ mark = 'E' then do
      let (negative, rest) := sign rest
      let (digits, rest) ← digits? Char.isDigit rest
      let size : Int := ofDigits 10 digits
      pure (if negative then -size else size, rest)
    else none
  | [] => none

/-- Reads a fraction, an exponent, or one after the other. -/
def fractionOrExponent? (text : List Char) :
    Option (List Char × Int × List Char) :=
  match text with
  | '.' :: rest => do
    let (fraction, rest) ← digits? Char.isDigit rest
    let (exponent, rest) := (exponent? rest).getD (0, rest)
    pure (fraction, exponent, rest)
  | _ => (exponent? text).map fun (exponent, rest) => ([], exponent, rest)

/-- Reads a number with a fraction or an exponent, none above the
greatest double. -/
def decimal? (text : List Char) : Option (Toml × List Char) := do
  let (negative, rest) := sign text
  let (digits, rest) ← whole? rest
  let (fraction, exponent, rest) ← fractionOrExponent? rest
  let value := Double.ofDecimal negative (ofDigits 10 (digits ++ fraction))
    (exponent - fraction.length)
  if value = .infinite false then none else pure (.double value, rest)

def notFinite? (text : List Char) : Option (Toml × List Char) :=
  let (negative, rest) := sign text
  match rest with
  | 'i' :: 'n' :: 'f' :: rest => some (.double (.infinite negative), rest)
  | 'n' :: 'a' :: 'n' :: rest => some (.double .nan, rest)
  | _ => none

def part? (count least greatest : Nat) (text : List Char) :
    Option (Nat × List Char) :=
  let digits := text.take count
  let value := ofDigits 10 digits
  if digits.length = count ∧ digits.all Char.isDigit ∧ least ≤ value ∧
      value ≤ greatest then
    some (value, text.drop count)
  else none

def mark? (character : Char) : List Char → Option (List Char)
  | first :: rest => if first = character then some rest else none
  | [] => none

def date? (text : List Char) : Option (List Char) := do
  let (year, rest) ← part? 4 0 9999 text
  let (month, rest) ← part? 2 1 12 (← mark? '-' rest)
  let (_, rest) ← part? 2 1 (daysInMonth year month) (← mark? '-' rest)
  pure rest

/-- Reads a fraction of a second, if there is one. -/
def secondFraction : List Char → List Char
  | '.' :: digit :: rest =>
    if digit.isDigit then rest.dropWhile Char.isDigit else '.' :: digit :: rest
  | text => text

/-- Reads hour, minute and second, the second up to 60. -/
def time? (text : List Char) : Option (List Char) := do
  let (_, rest) ← part? 2 0 23 text
  let (_, rest) ← part? 2 0 59 (← mark? ':' rest)
  let (_, rest) ← part? 2 0 60 (← mark? ':' rest)
  pure (secondFraction rest)

def numericOffset? (text : List Char) : Option (List Char) := do
  let (_, rest) ← part? 2 0 23 text
  let (_, rest) ← part? 2 0 59 (← mark? ':' rest)
  pure rest

def offset (text : List Char) : List Char :=
  match text with
  | 'Z' :: rest | 'z' :: rest => rest
  | '+' :: rest | '-' :: rest => (numericOffset? rest).getD text
  | _ => text

def timeOfDay (text : List Char) : List Char :=
  match text with
  | mark :: rest =>
    if mark = 'T' ∨ mark = 't' ∨ mark = ' ' then
      ((time? rest).map offset).getD text
    else text
  | [] => text

def moment? (text : List Char) : Option (Toml × List Char) :=
  ((date? text).map timeOfDay <|> time? text).map fun rest =>
    (.moment (String.ofList (text.take (text.length - rest.length))), rest)

def numberOrMoment? (text : List Char) : Option (Toml × List Char) :=
  moment? text <|> decimal? text <|> notFinite? text <|> integer? text

end RecordSql.Toml
