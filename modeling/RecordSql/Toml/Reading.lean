import RecordSql.Toml.Number
import RecordSql.Toml.Text

/-!
# Reading TOML documents

A document is read line by line; the value of an entry may run over several
lines. Arrays and tables between braces nest at most 79 deep, and a key has at
most 79 names.
-/

namespace RecordSql.Toml

def greatestDepth : Nat := 79

mutual

/-- Reads a value that nests at most `depth` deep. The fuel bounds the number of
values read one inside or after another. -/
def value? : Nat → Nat → List Char → Option (Toml × List Char)
  | 0, _, _ => none
  | fuel + 1, depth, text =>
    match text with
    | '"' :: _ | '\'' :: _ => (string? text).map fun (value, rest) =>
        (.string value, rest)
    | 't' :: 'r' :: 'u' :: 'e' :: rest => some (.boolean true, rest)
    | 'f' :: 'a' :: 'l' :: 's' :: 'e' :: rest => some (.boolean false, rest)
    | '[' :: rest =>
      if depth = 0 then none
      else
        match items? fuel (depth - 1) rest with
        | none => none
        | some (items, rest) => some (.array items, rest)
    | '{' :: rest =>
      if depth = 0 then none
      else
        match skipBlanks rest with
        | '}' :: rest => some (.table .inline [], rest)
        | rest =>
          match pairs? fuel (depth - 1) rest with
          | none => none
          | some (pairs, rest) => (inlineTable? pairs).map fun table =>
              (table, rest)
    | _ => numberOrMoment? text

def items? : Nat → Nat → List Char → Option (List Toml × List Char)
  | 0, _, _ => none
  | fuel + 1, depth, text =>
    match skipLines false text with
    | ']' :: rest => some ([], rest)
    | rest =>
      match value? fuel depth rest with
      | none => none
      | some (item, rest) =>
        match skipLines false rest with
        | ']' :: rest => some ([item], rest)
        | ',' :: rest =>
          match items? fuel depth rest with
          | none => none
          | some (items, rest) => some (item :: items, rest)
        | _ => none

def pairs? : Nat → Nat → List Char → Option (List (TomlPath × Toml) × List Char)
  | 0, _, _ => none
  | fuel + 1, depth, text =>
    match pair? fuel depth text with
    | none => none
    | some (pair, rest) =>
      match skipBlanks rest with
      | '}' :: rest => some ([pair], rest)
      | ',' :: rest =>
        match pairs? fuel depth rest with
        | none => none
        | some (pairs, rest) => some (pair :: pairs, rest)
      | _ => none

def pair? : Nat → Nat → List Char → Option ((TomlPath × Toml) × List Char)
  | 0, _, _ => none
  | fuel + 1, depth, text =>
    match path? greatestDepth text with
    | some (path, '=' :: rest) =>
      match value? fuel depth (skipBlanks rest) with
      | none => none
      | some (value, rest) => some ((path, value), rest)
    | _ => none

end

def header? : List Char → Option (TomlLine × List Char)
  | '[' :: text =>
    match path? greatestDepth text with
    | some (path, ']' :: ']' :: rest) => (lineEnd? rest).map fun rest =>
        (.row path, rest)
    | _ => none
  | text =>
    match path? greatestDepth text with
    | some (path, ']' :: rest) => (lineEnd? rest).map fun rest =>
        (.table path, rest)
    | _ => none

def line? : List Char → Option (TomlLine × List Char)
  | '[' :: text => header? text
  | text => do
    let ((path, value), rest) ← pair? (2 * text.length + 2) greatestDepth text
    let rest ← lineEnd? rest
    pure (.entry path value, rest)

/-- Reads the lines of a text; the fuel bounds their number. -/
def lines? : Nat → List Char → Option (List TomlLine)
  | 0, _ => none
  | fuel + 1, text =>
    if text.isEmpty then some []
    else
      match lineEnd? text with
      | some rest => lines? fuel rest
      | none => do
        let (line, rest) ← line? (skipBlanks text)
        let lines ← lines? fuel rest
        pure (line :: lines)

/-- The entries of a document. A byte order mark before it does not count. -/
def ofText? (text : String) : Option (List (String × Toml)) := do
  let chars :=
    match text.toList with
    | '\ufeff' :: rest => rest
    | chars => chars
  let lines ← lines? (chars.length + 1) chars
  addLines? lines [] []

end RecordSql.Toml
