import RecordSql.Dialect
import RecordSql.Text.Separated

/-!
# Reading names and placeholders

The reference readers of a dialect: names as a server splits them into
segments, and placeholders.  They take nothing from the way names are quoted
except the quotes themselves, and each returns the rest of the text.
-/

namespace RecordSql

/-- A segment of a name and the way it is written. -/
inductive NameSegment where
  | star
  | bare (word : List Char)
  | quoted (text : List Char)
  deriving DecidableEq

def NameSegment.text : NameSegment → List Char
  | star => ['*']
  | bare word => word
  | quoted text => text

/-- Reads up to the closing quote; two closing quotes in a row stand for one. -/
def readQuoted (closing : Char) : List Char → Option (List Char × List Char)
  | [] => none
  | first :: rest =>
    if first = closing then
      match rest with
      | [] => some ([], [])
      | second :: after =>
        if second = closing then
          (readQuoted closing after).map fun (text, rest) =>
            (closing :: text, rest)
        else some ([], rest)
    else (readQuoted closing rest).map fun (text, rest) => (first :: text, rest)

namespace Dialect

def openingQuote : Dialect → Char
  | mysql _ => '\x60'
  | sqlserver => '['
  | sqlite => '"'

def closingQuote : Dialect → Char
  | mysql _ => '\x60'
  | sqlserver => ']'
  | sqlite => '"'

/-- Whether a plain word is a segment of a name without quotes. -/
def takesBareWords : Dialect → Bool
  | sqlite => true
  | _ => false

/-- Reads one segment of a name: a star, a quoted text or, where such `words`
are taken, the longest plain word. -/
def readSegment (dialect : Dialect) (words : Bool) :
    List Char → Option (NameSegment × List Char)
  | [] => none
  | first :: rest =>
    if first = '*' then some (.star, rest)
    else if first = dialect.openingQuote then
      (readQuoted dialect.closingQuote rest).map fun (text, rest) =>
        (.quoted text, rest)
    else if words && Text.startsWord first then
      some (.bare (first :: rest.takeWhile Text.continuesWord),
        rest.dropWhile Text.continuesWord)
    else none

/-- Reads segments with a dot between them, as many as there are. -/
def readSegments (dialect : Dialect) (words : Bool) (text : List Char) :
    Option (List NameSegment × List Char) :=
  Text.readItems ['.'] (dialect.readSegment words) text

/-- The strict reader of names takes plain words only where a name may have
them, and it tells how each segment is written. -/
def readNameSegments (dialect : Dialect) (text : List Char) :
    Option (List NameSegment × List Char) :=
  dialect.readSegments dialect.takesBareWords text

/-- The reader of names in statements, where keywords are plain words too. -/
def readName (dialect : Dialect) (text : List Char) :
    Option (List (List Char) × List Char) :=
  (dialect.readSegments true text).map fun (segments, rest) =>
    (segments.map NameSegment.text, rest)

/-- Reads a placeholder, which SQL Server numbers, and returns the rest. -/
def readPlaceholder? (dialect : Dialect) (text : List Char) :
    Option (List Char) :=
  match dialect, text with
  | sqlserver, '@' :: 'P' :: digit :: rest =>
    if digit.isDigit then some (rest.dropWhile Char.isDigit) else none
  | sqlserver, _ => none
  | _, '?' :: rest => some rest
  | _, _ => none

end Dialect

end RecordSql
