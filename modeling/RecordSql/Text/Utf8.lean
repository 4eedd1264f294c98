/-!
# UTF-8

The bytes of a text, and the text of any bytes: each longest beginning of a
character that breaks off, and each byte that can begin none, becomes one
replacement character.
-/

namespace RecordSql.Text

def utf8Bytes (text : String) : List UInt8 :=
  text.toList.flatMap String.utf8EncodeChar

/-- The character that stands for bytes that are no character. -/
def replacement : Char := '\ufffd'

/-- A character some of whose bytes have been read: how many it still owes, the
least and greatest next byte, and the value of the bits read. -/
structure PartialChar where
  owed : Nat
  least : Nat
  greatest : Nat
  value : Nat

/-- What a byte does where a character may begin. -/
inductive LeadByte where
  | whole (character : Char)
  | begins (start : PartialChar)
  | stray

def LeadByte.of (byte : Nat) : LeadByte :=
  if byte < 0x80 then .whole (Char.ofNat byte)
  else if byte < 0xC2 then .stray
  else if byte < 0xE0 then .begins ⟨1, 0x80, 0xBF, byte - 0xC0⟩
  else if byte = 0xE0 then .begins ⟨2, 0xA0, 0xBF, 0⟩
  else if byte = 0xED then .begins ⟨2, 0x80, 0x9F, 0xD⟩
  else if byte < 0xF0 then .begins ⟨2, 0x80, 0xBF, byte - 0xE0⟩
  else if byte = 0xF0 then .begins ⟨3, 0x90, 0xBF, 0⟩
  else if byte < 0xF4 then .begins ⟨3, 0x80, 0xBF, byte - 0xF0⟩
  else if byte = 0xF4 then .begins ⟨3, 0x80, 0x8F, 4⟩
  else .stray

/-- Reads on, in the middle of a character or between characters. -/
def decodeFrom : Option PartialChar → List UInt8 → List Char
  | none, [] => []
  | some _, [] => [replacement]
  | none, byte :: bytes =>
    match LeadByte.of byte.toNat with
    | .whole character => character :: decodeFrom none bytes
    | .begins start => decodeFrom (some start) bytes
    | .stray => replacement :: decodeFrom none bytes
  | some pending, byte :: bytes =>
    if pending.least ≤ byte.toNat && byte.toNat ≤ pending.greatest then
      let value := 64 * pending.value + (byte.toNat - 0x80)
      if pending.owed ≤ 1 then Char.ofNat value :: decodeFrom none bytes
      else decodeFrom (some ⟨pending.owed - 1, 0x80, 0xBF, value⟩) bytes
    else
      match LeadByte.of byte.toNat with
      | .whole character => replacement :: character :: decodeFrom none bytes
      | .begins start => replacement :: decodeFrom (some start) bytes
      | .stray => replacement :: replacement :: decodeFrom none bytes

/-- The text of some bytes, with a replacement character for each fault. -/
def textOfBytes (bytes : List UInt8) : String :=
  String.ofList (decodeFrom none bytes)

end RecordSql.Text
