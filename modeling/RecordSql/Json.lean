import RecordSql.Number.Text
import RecordSql.Text.Hex

/-!
# JSON values

The values of JSON texts and their compact printing. Whole numbers are told
apart from others by how they are written. The members of an object keep
their order and may repeat a name; what repeated names mean is left to the
reader of the object.
-/

namespace RecordSql

inductive Json where
  | null
  | boolean (value : Bool)
  | integer (value : Int)
  | double (value : Double)
  | string (value : String)
  | array (items : List Json)
  | object (members : List (String × Json))
  /-- A number beyond the doubles, a string with half a surrogate pair, or an
  object with such a string for a name. -/
  | unreadable

namespace Json

def escapeChars (character : Char) : List Char :=
  if character = '"' then ['\\', '"']
  else if character = '\\' then ['\\', '\\']
  else if character = '\x08' then ['\\', 'b']
  else if character = '\x0c' then ['\\', 'f']
  else if character = '\n' then ['\\', 'n']
  else if character = '\r' then ['\\', 'r']
  else if character = '\t' then ['\\', 't']
  else if character.toNat < 32 then
    ['\\', 'u', '0', '0', Text.hexDigit (character.toNat / 16),
      Text.hexDigit (character.toNat % 16)]
  else [character]

def stringChars (text : String) : List Char :=
  '"' :: text.toList.flatMap escapeChars ++ ['"']

/-- A double in compact layout, null when it is not finite. -/
def doubleChars (double : Double) : List Char :=
  match double.compactText? with
  | some text => text.toList
  | none => ['n', 'u', 'l', 'l']

mutual

/-- The compact text of a value. -/
def chars : Json → List Char
  | null => ['n', 'u', 'l', 'l']
  | boolean true => ['t', 'r', 'u', 'e']
  | boolean false => ['f', 'a', 'l', 's', 'e']
  | integer value => Number.intChars value
  | double value => doubleChars value
  | string value => stringChars value
  | array items => '[' :: charsList items ++ [']']
  | object members => '{' :: charsMembers members ++ ['}']
  | unreadable => ['n', 'u', 'l', 'l']

def charsList : List Json → List Char
  | [] => []
  | [item] => item.chars
  | item :: items => item.chars ++ ',' :: charsList items

def charsMembers : List (String × Json) → List Char
  | [] => []
  | [(name, value)] => stringChars name ++ ':' :: value.chars
  | (name, value) :: members =>
      stringChars name ++ ':' :: value.chars ++ ',' :: charsMembers members

end

def text (json : Json) : String :=
  String.ofList json.chars

end Json

end RecordSql
