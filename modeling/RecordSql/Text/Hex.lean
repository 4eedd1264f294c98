/-!
# Hexadecimal text

Bytes as pairs of lowercase hexadecimal digits, and back.
-/

namespace RecordSql.Text

def hexDigit (value : Nat) : Char :=
  if value < 10 then Char.ofNat (48 + value) else Char.ofNat (87 + value)

def hexValue? (digit : Char) : Option Nat :=
  let code := digit.toNat
  if 48 ≤ code ∧ code ≤ 57 then some (code - 48)
  else if 97 ≤ code ∧ code ≤ 102 then some (code - 87)
  else if 65 ≤ code ∧ code ≤ 70 then some (code - 55)
  else none

def hexChars : List UInt8 → List Char
  | [] => []
  | byte :: bytes =>
    hexDigit (byte.toNat / 16) :: hexDigit (byte.toNat % 16) :: hexChars bytes

def hex (bytes : List UInt8) : String :=
  String.ofList (hexChars bytes)

def bytesOfHex? : List Char → Option (List UInt8)
  | [] => some []
  | high :: low :: rest => do
    let highValue ← hexValue? high
    let lowValue ← hexValue? low
    let bytes ← bytesOfHex? rest
    pure (UInt8.ofNat (16 * highValue + lowValue) :: bytes)
  | [_] => none

end RecordSql.Text
