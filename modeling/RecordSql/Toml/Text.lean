import RecordSql.Text.Hex
import RecordSql.Toml

/-!
# Blanks, strings and keys of TOML

The lexical parts of TOML that are text. Each reader takes what it reads from
the start of the text and returns the rest.
-/

namespace RecordSql.Toml

def isBlank (character : Char) : Bool :=
  character == ' ' || character == '\t'

def skipBlanks (text : List Char) : List Char :=
  text.dropWhile isBlank

/-- A character that comments and strings may hold: no control
character but the tab. -/
def isTextChar (character : Char) : Bool :=
  character == '\t' || (32 ≤ character.toNat && character.toNat ≠ 127)

def newline? : List Char → Option (List Char)
  | '\n' :: rest => some rest
  | '\r' :: '\n' :: rest => some rest
  | _ => none

/-- Reads the end of a line or of the text, with blanks and a
comment before it. -/
def lineEnd? (text : List Char) : Option (List Char) :=
  let rest :=
    match skipBlanks text with
    | '#' :: comment => comment.dropWhile isTextChar
    | rest => rest
  if rest.isEmpty then some [] else newline? rest

/-- Skips blanks, ends of lines and comments; the flag stands
within a comment. -/
def skipLines : Bool → List Char → List Char
  | _, '\n' :: rest => skipLines false rest
  | _, '\r' :: '\n' :: rest => skipLines false rest
  | false, '#' :: rest => skipLines true rest
  | false, character :: rest =>
    if isBlank character then skipLines false rest else character :: rest
  | true, character :: rest =>
    if isTextChar character then skipLines true rest else character :: rest
  | _, [] => []

def escaped? : Char → Option Char
  | 'b' => some '\x08'
  | 't' => some '\t'
  | 'n' => some '\n'
  | 'f' => some '\x0c'
  | 'r' => some '\r'
  | '"' => some '"'
  | '\\' => some '\\'
  | _ => none

def charOfHex? (digits : List Char) : Option Char := do
  let values ← digits.mapM Text.hexValue?
  let code := values.foldl (fun code value => 16 * code + value) 0
  if code < 0xD800 ∨ (0xE000 ≤ code ∧ code < 0x110000) then
    some (Char.ofNat code)
  else none

def withChar (character : Option Char) (rest : Option (List Char × List Char)) :
    Option (List Char × List Char) :=
  match character, rest with
  | some character, some (chars, rest) => some (character :: chars, rest)
  | _, _ => none

def stringChars? : List Char → Option (List Char × List Char)
  | [] => none
  | '"' :: rest => some ([], rest)
  | '\\' :: 'u' :: a :: b :: c :: d :: rest =>
    withChar (charOfHex? [a, b, c, d]) (stringChars? rest)
  | '\\' :: 'U' :: a :: b :: c :: d :: e :: f :: g :: h :: rest =>
    withChar (charOfHex? [a, b, c, d, e, f, g, h]) (stringChars? rest)
  | '\\' :: letter :: rest => withChar (escaped? letter) (stringChars? rest)
  | character :: rest =>
    if isTextChar character && character ≠ '\\' then
      withChar (some character) (stringChars? rest)
    else none

inductive LineState where
  | text
  /-- After a backslash, before the end of the line. -/
  | breaking
  /-- In the blanks and ends of lines after such a line. -/
  | folding

/-- The characters of a string of several lines up to its three closing quotes,
before which it may have two of its own. A backslash at the end of a line joins
it to the next text. -/
def linesChars? : LineState → List Char → Option (List Char × List Char)
  | _, [] => none
  | .breaking, '\n' :: rest => linesChars? .folding rest
  | .breaking, '\r' :: '\n' :: rest => linesChars? .folding rest
  | .breaking, character :: rest =>
    if isBlank character then linesChars? .breaking rest else none
  | .folding, '\n' :: rest => linesChars? .folding rest
  | .folding, '\r' :: '\n' :: rest => linesChars? .folding rest
  | .folding, ' ' :: rest => linesChars? .folding rest
  | .folding, '\t' :: rest => linesChars? .folding rest
  | _, '"' :: '"' :: '"' :: '"' :: '"' :: rest => some (['"', '"'], rest)
  | _, '"' :: '"' :: '"' :: '"' :: rest => some (['"'], rest)
  | _, '"' :: '"' :: '"' :: rest => some ([], rest)
  | _, '\\' :: 'u' :: a :: b :: c :: d :: rest =>
    withChar (charOfHex? [a, b, c, d]) (linesChars? .text rest)
  | _, '\\' :: 'U' :: a :: b :: c :: d :: e :: f :: g :: h :: rest =>
    withChar (charOfHex? [a, b, c, d, e, f, g, h]) (linesChars? .text rest)
  | _, '\\' :: '\n' :: rest => linesChars? .folding rest
  | _, '\\' :: '\r' :: '\n' :: rest => linesChars? .folding rest
  | _, '\\' :: letter :: rest =>
    if isBlank letter then linesChars? .breaking rest
    else withChar (escaped? letter) (linesChars? .text rest)
  | _, '\n' :: rest => withChar (some '\n') (linesChars? .text rest)
  | _, '\r' :: '\n' :: rest => withChar (some '\n') (linesChars? .text rest)
  | _, character :: rest =>
    if isTextChar character && character ≠ '\\' then
      withChar (some character) (linesChars? .text rest)
    else none

/-- The characters of a literal string up to its closing apostrophe. -/
def literalChars? : List Char → Option (List Char × List Char)
  | [] => none
  | '\'' :: rest => some ([], rest)
  | character :: rest =>
    if isTextChar character then withChar (some character) (literalChars? rest)
    else none

/-- The characters of a literal string of several lines up to its three closing
apostrophes, before which it may have two of its own. -/
def literalLinesChars? : List Char → Option (List Char × List Char)
  | [] => none
  | '\'' :: '\'' :: '\'' :: '\'' :: '\'' :: rest => some (['\'', '\''], rest)
  | '\'' :: '\'' :: '\'' :: '\'' :: rest => some (['\''], rest)
  | '\'' :: '\'' :: '\'' :: rest => some ([], rest)
  | '\n' :: rest => withChar (some '\n') (literalLinesChars? rest)
  | '\r' :: '\n' :: rest => withChar (some '\n') (literalLinesChars? rest)
  | character :: rest =>
    if isTextChar character then
      withChar (some character) (literalLinesChars? rest)
    else none

/-- Reads a string of any of the four kinds. The end of the first line of a
string of several lines does not count when nothing stands before it. -/
def string? (text : List Char) : Option (String × List Char) :=
  let chars :=
    match text with
    | '"' :: '"' :: '"' :: rest => linesChars? .text ((newline? rest).getD rest)
    | '\'' :: '\'' :: '\'' :: rest =>
        literalLinesChars? ((newline? rest).getD rest)
    | '"' :: rest => stringChars? rest
    | '\'' :: rest => literalChars? rest
    | _ => none
  chars.map fun (chars, rest) => (String.ofList chars, rest)

def isKeyChar (character : Char) : Bool :=
  character.isAlphanum || character == '_' || character == '-'

/-- Reads one name of a key, bare or as a string of one line. -/
def name? (text : List Char) : Option (String × List Char) :=
  match text with
  | '"' :: rest => (stringChars? rest).map fun (chars, rest) =>
      (String.ofList chars, rest)
  | '\'' :: rest => (literalChars? rest).map fun (chars, rest) =>
      (String.ofList chars, rest)
  | _ =>
    let bare := text.takeWhile isKeyChar
    if bare.isEmpty then none
    else some (String.ofList bare, text.dropWhile isKeyChar)

/-- Reads names with points between them, and blanks around each;
at most `limit`. -/
def path? : Nat → List Char → Option (TomlPath × List Char)
  | 0, _ => none
  | limit + 1, text =>
    match name? (skipBlanks text) with
    | none => none
    | some (name, rest) =>
      match skipBlanks rest with
      | '.' :: rest =>
        (path? limit rest).map fun (path, rest) =>
          (⟨name :: path.steps, path.last⟩, rest)
      | rest => some (⟨[], name⟩, rest)

end RecordSql.Toml
