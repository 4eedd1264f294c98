import RecordSql.Number.Shortest

/-!
# Doubles as text

Two layouts of the shortest decimal, and the reader that undoes both. Plain
layout never uses an exponent; compact layout keeps a fraction or an exponent on
every number, so that a reader can tell it from a whole number. Of two decimals
that are equally near plain layout takes the greater and compact the even one.
-/

namespace RecordSql

namespace Decimal

def pointPosition (decimal : Decimal) : Int :=
  (Number.digitChars decimal.digits).length + decimal.exponent

def plainChars (decimal : Decimal) : List Char :=
  let digits := Number.digitChars decimal.digits
  let point := decimal.pointPosition
  if 0 ≤ decimal.exponent then
    digits ++ List.replicate decimal.exponent.toNat '0'
  else if 0 < point then
    digits.take point.toNat ++ '.' :: digits.drop point.toNat
  else '0' :: '.' :: List.replicate (-point).toNat '0' ++ digits

/-- One digit, the others after a point, and the exponent with its sign
above zero too. -/
def scientificChars (decimal : Decimal) : List Char :=
  let digits := Number.digitChars decimal.digits
  let exponent := decimal.pointPosition - 1
  let fraction := if digits.length ≤ 1 then [] else '.' :: digits.drop 1
  digits.take 1 ++ fraction ++ 'e' :: (if exponent < 0 then '-' else '+') ::
    Number.digitChars exponent.natAbs

/-- Compact layout: an exponent below 0.00001 and from ten to the sixteenth, a
fraction of zero on other whole numbers. -/
def compactChars (decimal : Decimal) : List Char :=
  let exponent := decimal.pointPosition - 1
  if exponent < -5 ∨ 16 ≤ exponent then decimal.scientificChars
  else if 0 ≤ decimal.exponent then decimal.plainChars ++ ['.', '0']
  else decimal.plainChars

end Decimal

namespace Double

private def signChars (negative : Bool) : List Char :=
  if negative then ['-'] else []

def text : Double → String
  | .nan => "NaN"
  | .infinite negative => if negative then "-inf" else "inf"
  | .finite negative magnitude =>
    String.ofList
      (signChars negative ++ (magnitude.shortest .greater).plainChars)

def compactText? : Double → Option String
  | .finite negative magnitude =>
    some (String.ofList
      (signChars negative ++ (magnitude.shortest .even).compactChars))
  | _ => none

/-- Reads an exponent mark, an optional sign and digits; an absent
exponent is zero. -/
def exponent? : List Char → Option Int
  | [] => some 0
  | mark :: rest =>
    if mark = 'e' ∨ mark = 'E' then Number.signed? rest else none

/-- Reads digits with an optional point and exponent; a digit must stand on one
side of the point. -/
def unsignedDecimal? (negative : Bool) (text : List Char) : Option Double :=
  let whole := text.takeWhile Char.isDigit
  let rest := text.dropWhile Char.isDigit
  let fraction :=
    match rest with
    | '.' :: after => after.takeWhile Char.isDigit
    | _ => []
  let rest :=
    match rest with
    | '.' :: after => after.dropWhile Char.isDigit
    | _ => rest
  if whole.isEmpty && fraction.isEmpty then none
  else
    (exponent? rest).map fun exponent =>
      ofDecimal negative (Nat.ofDigitChars 10 (whole ++ fraction) 0)
        (exponent - fraction.length)

/-- Reads a number, an infinity or no number, the words in
letters of any case. -/
def unsigned? (negative : Bool) (text : List Char) : Option Double :=
  let word := text.map Char.toLower
  if word = ['i', 'n', 'f'] ∨
      word = ['i', 'n', 'f', 'i', 'n', 'i', 't', 'y'] then
    some (.infinite negative)
  else if word = ['n', 'a', 'n'] then some .nan
  else unsignedDecimal? negative text

def ofText? : List Char → Option Double
  | '-' :: rest => unsigned? true rest
  | '+' :: rest => unsigned? false rest
  | text => unsigned? false text

end Double

end RecordSql
