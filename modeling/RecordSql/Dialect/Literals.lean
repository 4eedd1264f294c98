import RecordSql.Dialect.Reading

/-!
# Reading literals

The reference reader of the literals of a dialect: texts between quotes, whole
numbers, and bytes as hexadecimal digits in a call.  It goes by what a server
takes from a literal, and returns the rest of the text.
-/

namespace RecordSql

/-- What a backslash and the character after it stand for in a text of MySQL,
where the signs of patterns keep the backslash. -/
def escapedChars : Char → List Char
  | '0' => ['\x00']
  | 'b' => ['\x08']
  | 't' => ['\t']
  | 'n' => ['\n']
  | 'r' => ['\r']
  | 'Z' => ['\x1a']
  | '%' => ['\\', '%']
  | '_' => ['\\', '_']
  | character => [character]

/-- Reads up to the closing quote of a text in which a backslash escapes the
next character; two quotes in a row stand for one. -/
def readEscaped : List Char → Option (List Char × List Char)
  | [] => none
  | first :: rest =>
    if first = '\\' then
      match rest with
      | [] => none
      | second :: after =>
        (readEscaped after).map fun (text, rest) =>
          (escapedChars second ++ text, rest)
    else if first = '\'' then
      match rest with
      | [] => some ([], [])
      | second :: after =>
        if second = '\'' then
          (readEscaped after).map fun (text, rest) => ('\'' :: text, rest)
        else some ([], rest)
    else (readEscaped rest).map fun (text, rest) => (first :: text, rest)

/-- A whole number starts with a minus or a digit. -/
def startsWhole (first : Char) : Bool := first = '-' || first.isDigit

/-- Reads digits, with a minus or without, as a number of 64 bits. -/
def readWhole : List Char → Option (Int64 × List Char)
  | '-' :: rest =>
    (Number.int64? ('-' :: rest.takeWhile Char.isDigit)).map fun value =>
      (value, rest.dropWhile Char.isDigit)
  | text =>
    (Number.int64? (text.takeWhile Char.isDigit)).map fun value =>
      (value, text.dropWhile Char.isDigit)

namespace Dialect

/-- Reads a text between single quotes; only in MySQL a backslash escapes. -/
def readText (dialect : Dialect) : List Char → Option (List Char × List Char)
  | '\'' :: rest =>
    match dialect with
    | mysql _ => readEscaped rest
    | _ => readQuoted '\'' rest
  | _ => none

/-- What stands before and after the quoted digits in the call that
makes bytes of them. -/
def bytesCall : Dialect → String × String
  | sqlserver => ("convert(varbinary(max), ", ", 2)")
  | _ => ("unhex(", ")")

/-- Reads a call that makes bytes of hexadecimal digits. -/
def readBytes (dialect : Dialect) (text : List Char) :
    Option (List UInt8 × List Char) := do
  let rest ← Text.afterWord? dialect.bytesCall.1 text
  let (digits, rest) ← dialect.readText rest
  let bytes ← Text.bytesOfHex? digits
  let rest ← Text.afterWord? dialect.bytesCall.2 rest
  some (bytes, rest)

/-- Reads a literal as the parameter that it stands for: its first
character tells which. -/
def readLiteral (dialect : Dialect) (text : List Char) :
    Option (Param × List Char) :=
  if text.head? = some '\'' then
    (dialect.readText text).map fun (value, rest) =>
      (.text (String.ofList value), rest)
  else if text.head?.any startsWhole then
    (readWhole text).map fun (value, rest) => (.integer value, rest)
  else (dialect.readBytes text).map fun (value, rest) => (.bytes value, rest)

end Dialect

end RecordSql
