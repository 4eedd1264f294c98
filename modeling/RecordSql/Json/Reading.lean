import RecordSql.Json

/-!
# Reading JSON texts

A strict reader: one value, blanks of four kinds around and between its parts,
and nothing else. What is well formed but denotes no value is read as such, so
that it can be passed over where it is not used.
-/

namespace RecordSql.Json

/-- The text without the blanks that JSON allows before it. -/
def skipBlanks (text : List Char) : List Char :=
  text.dropWhile fun character =>
    character == ' ' || character == '\n' || character == '\r' ||
      character == '\t'

/-- A character of a string, or a sixteen-bit unit given by its number. -/
inductive StringUnit where
  | character (value : Char)
  | unit (code : Nat)

def escaped? : Char → Option Char
  | '"' => some '"'
  | '\\' => some '\\'
  | '/' => some '/'
  | 'b' => some '\x08'
  | 'f' => some '\x0c'
  | 'n' => some '\n'
  | 'r' => some '\r'
  | 't' => some '\t'
  | _ => none

def unitCode? (first second third fourth : Char) : Option Nat := do
  let first ← Text.hexValue? first
  let second ← Text.hexValue? second
  let third ← Text.hexValue? third
  let fourth ← Text.hexValue? fourth
  pure (4096 * first + 256 * second + 16 * third + fourth)

def withUnit (unit : Option StringUnit)
    (rest : Option (List StringUnit × List Char)) :
    Option (List StringUnit × List Char) :=
  match unit, rest with
  | some unit, some (units, rest) => some (unit :: units, rest)
  | _, _ => none

/-- The units of a string after its opening quote, and what follows
its closing one. -/
def stringUnits? : List Char → Option (List StringUnit × List Char)
  | [] => none
  | '"' :: rest => some ([], rest)
  | '\\' :: 'u' :: first :: second :: third :: fourth :: rest =>
    withUnit ((unitCode? first second third fourth).map .unit)
      (stringUnits? rest)
  | '\\' :: letter :: rest =>
      withUnit ((escaped? letter).map .character) (stringUnits? rest)
  | character :: rest =>
    if character.toNat < 32 ∨ character = '\\' then none
    else withUnit (some (.character character)) (stringUnits? rest)

/-- The characters that units stand for; half a surrogate pair
stands for none. -/
def charsOfUnits? : List StringUnit → Option (List Char)
  | [] => some []
  | .character value :: units => (charsOfUnits? units).map (value :: ·)
  | .unit high :: .unit low :: units =>
    if 0xD800 ≤ high ∧ high < 0xDC00 then
      if 0xDC00 ≤ low ∧ low < 0xE000 then
        (charsOfUnits? units).map
          (Char.ofNat (0x10000 + 1024 * (high - 0xD800) + (low - 0xDC00)) :: ·)
      else none
    else if 0xDC00 ≤ high ∧ high < 0xE000 then none
    else (charsOfUnits? (.unit low :: units)).map (Char.ofNat high :: ·)
  | .unit code :: units =>
    if 0xD800 ≤ code ∧ code < 0xE000 then none
    else (charsOfUnits? units).map (Char.ofNat code :: ·)

/-- A string after its opening quote; none within when it denotes no text. -/
def quoted? (text : List Char) : Option (Option String × List Char) :=
  (stringUnits? text).map fun (units, rest) =>
    ((charsOfUnits? units).map String.ofList, rest)

/-- Digits at the start of a text, at least one. -/
def digits? (text : List Char) : Option (List Char × List Char) :=
  let digits := text.takeWhile Char.isDigit
  if digits.isEmpty then none else some (digits, text.dropWhile Char.isDigit)

/-- The digits of a fraction after its point; none at all without a point. -/
def fraction? : List Char → Option (List Char × List Char)
  | '.' :: rest => digits? rest
  | text => some ([], text)

/-- An exponent after its mark; none within without a mark. -/
def exponent? : List Char → Option (Option Int × List Char)
  | mark :: rest =>
    if mark = 'e' ∨ mark = 'E' then
      let (negative, rest) :=
        match rest with
        | '-' :: rest => (true, rest)
        | '+' :: rest => (false, rest)
        | _ => (false, rest)
      (digits? rest).map fun (digits, rest) =>
        let value : Int := Nat.ofDigitChars 10 digits 0
        (some (if negative then -value else value), rest)
    else some (none, mark :: rest)
  | [] => some (none, [])

def ofDouble (double : Double) : Json :=
  if double.isFinite then .double double else unreadable

/-- The number made of its parts. Without fraction and exponent it is whole, if
it fits 64 bits and is not minus zero. -/
def ofNumberParts (negative : Bool) (whole fraction : List Char)
    (exponent : Option Int) : Json :=
  let digits := Nat.ofDigitChars 10 (whole ++ fraction) 0
  let value : Int := if negative then -(digits : Int) else digits
  if fraction.isEmpty ∧ exponent = none ∧ Number.leastInt64 ≤ value ∧
      value < 18446744073709551616 ∧
      ¬ (negative ∧ digits = 0) then
    integer value
  else ofDouble
    (Double.ofDecimal negative digits (exponent.getD 0 - fraction.length))

def unsigned? (negative : Bool) (text : List Char) :
    Option (Json × List Char) := do
  let (whole, rest) ← digits? text
  if whole.head? = some '0' ∧ whole.length ≠ 1 then none
  else
    let (fraction, rest) ← fraction? rest
    let (exponent, rest) ← exponent? rest
    pure (ofNumberParts negative whole fraction exponent, rest)

def number? : List Char → Option (Json × List Char)
  | '-' :: rest => unsigned? true rest
  | text => unsigned? false text

/-- The object with these members, unless one of the names denotes no text. -/
def ofMembers (members : List (Option String × Json)) : Json :=
  match members.mapM fun (name, value) => name.map fun name =>
      (name, value) with
  | some members => .object members
  | none => unreadable

mutual

/-- A value at the start of a text and what follows it. The fuel bounds the
number of values and members read one inside or after another. -/
def value? : Nat → List Char → Option (Json × List Char)
  | 0, _ => none
  | fuel + 1, text =>
    match skipBlanks text with
    | 'n' :: 'u' :: 'l' :: 'l' :: rest => some (.null, rest)
    | 't' :: 'r' :: 'u' :: 'e' :: rest => some (.boolean true, rest)
    | 'f' :: 'a' :: 'l' :: 's' :: 'e' :: rest => some (.boolean false, rest)
    | '"' :: rest =>
      match quoted? rest with
      | none => none
      | some (none, rest) => some (.unreadable, rest)
      | some (some value, rest) => some (.string value, rest)
    | '[' :: rest =>
      match skipBlanks rest with
      | ']' :: rest => some (.array [], rest)
      | rest =>
        match items? fuel rest with
        | none => none
        | some (items, rest) => some (.array items, rest)
    | '{' :: rest =>
      match skipBlanks rest with
      | '}' :: rest => some (.object [], rest)
      | rest =>
        match members? fuel rest with
        | none => none
        | some (members, rest) => some (ofMembers members, rest)
    | rest => number? rest

/-- The items of an array that has some, up to its end. -/
def items? : Nat → List Char → Option (List Json × List Char)
  | 0, _ => none
  | fuel + 1, text =>
    match value? fuel text with
    | none => none
    | some (item, rest) =>
      match skipBlanks rest with
      | ']' :: rest => some ([item], rest)
      | ',' :: rest =>
        match items? fuel rest with
        | none => none
        | some (items, rest) => some (item :: items, rest)
      | _ => none

def members? :
    Nat → List Char → Option (List (Option String × Json) × List Char)
  | 0, _ => none
  | fuel + 1, text =>
    match member? fuel text with
    | none => none
    | some (member, rest) =>
      match skipBlanks rest with
      | '}' :: rest => some ([member], rest)
      | ',' :: rest =>
        match members? fuel rest with
        | none => none
        | some (members, rest) => some (member :: members, rest)
      | _ => none

/-- A name, a colon and a value; none for a name that denotes no text. -/
def member? : Nat → List Char → Option ((Option String × Json) × List Char)
  | 0, _ => none
  | fuel + 1, text =>
    match skipBlanks text with
    | '"' :: rest =>
      match quoted? rest with
      | none => none
      | some (name, rest) =>
        match skipBlanks rest with
        | ':' :: rest =>
          match value? fuel rest with
          | none => none
          | some (value, rest) => some ((name, value), rest)
        | _ => none
    | _ => none

end

def ofText? (text : String) : Option Json :=
  let chars := text.toList
  match value? (2 * chars.length + 2) chars with
  | some (value, rest) => if (skipBlanks rest).isEmpty then some value else none
  | none => none

end RecordSql.Json
