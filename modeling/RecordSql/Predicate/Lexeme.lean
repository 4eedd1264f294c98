import RecordSql.Dialect.Reading
import RecordSql.Filter

/-!
# Lexemes of predicates

The words and signs that a predicate is made of.  Keywords are known by their
letters in any case, and the longest sign is taken; blanks only separate.
-/

namespace RecordSql

inductive Lexeme where
  /-- A plain word that is no keyword: a name, or an operator that
  is spelled out. -/
  | word (text : List Char)
  | name (segments : List (List Char))
  | and
  | or
  | not
  | in
  | like
  | between
  | is
  | null
  | comparison (operator : Operator)
  | placeholder
  | comma
  | opening
  | closing
  deriving DecidableEq

namespace Lexeme

/-- The keyword that a plain word is, if it is one. -/
def ofWord (text : List Char) : Lexeme :=
  match Text.lowerAscii (String.ofList text) with
  | "and" => and
  | "or" => or
  | "not" => not
  | "in" => .in
  | "like" => like
  | "between" => between
  | "is" => is
  | "null" => null
  | _ => word text

/-- The lexeme of a name that starts with a character: one plain word
may be a keyword. -/
def ofName (first : Char) (segments : List (List Char)) : Lexeme :=
  match segments with
  | [text] => if Text.startsWord first then ofWord text else name segments
  | _ => name segments

def segments? : Lexeme → Option (List (List Char))
  | word text => some [text]
  | name segments => some segments
  | _ => none

end Lexeme

namespace Dialect

def readSign (dialect : Dialect) : List Char → Option (Lexeme × List Char)
  | '(' :: rest => some (.opening, rest)
  | ')' :: rest => some (.closing, rest)
  | ',' :: rest => some (.comma, rest)
  | '=' :: rest => some (.comparison .equal, rest)
  | '<' :: '>' :: rest => some (.comparison .notEqual, rest)
  | '<' :: '=' :: rest => some (.comparison .lessOrEqual, rest)
  | '>' :: '=' :: rest => some (.comparison .greaterOrEqual, rest)
  | '<' :: rest => some (.comparison .less, rest)
  | '>' :: rest => some (.comparison .greater, rest)
  | text => (dialect.readPlaceholder? text).map fun rest => (.placeholder, rest)

/-- Reads the lexeme at the start of a text: a name or a keyword, else a
sign. -/
def readLexeme (dialect : Dialect) (text : List Char) :
    Option (Lexeme × List Char) :=
  match text.head?, dialect.readName text with
  | some first, some (segments, rest) => some (.ofName first segments, rest)
  | _, _ => dialect.readSign text

/-- The lexemes of a text, if there are at most so many. -/
def lexemesWithin (dialect : Dialect) : Nat → List Char → Option (List Lexeme)
  | 0, text => if (Text.dropBlanks text).isEmpty then some [] else none
  | count + 1, text =>
    match Text.dropBlanks text with
    | [] => some []
    | text => do
      let (lexeme, rest) ← dialect.readLexeme text
      let lexemes ← dialect.lexemesWithin count rest
      some (lexeme :: lexemes)

/-- The lexemes of a text, none if there is something in it that is no
lexeme. -/
def lexemes? (dialect : Dialect) (text : List Char) : Option (List Lexeme) :=
  dialect.lexemesWithin text.length text

end Dialect

end RecordSql
