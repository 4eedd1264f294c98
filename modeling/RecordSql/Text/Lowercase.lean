import RecordSql.Text.Lowercase.Table

/-!
# Lowercase text

The full lowercase mapping: one character for each capital, except that the
capital I with a dot gives two, and a capital sigma gives the final form where
it ends a word.
-/

namespace RecordSql.Text

/-- Whether a code point lies in the run, at a multiple of its step. -/
def LowercaseRun.contains (run : LowercaseRun) (code : Nat) : Bool :=
  run.first ≤ code && code ≤ run.last && (code - run.first) % run.step = 0

def CodeRange.contains (range : CodeRange) (code : Nat) : Bool :=
  range.first ≤ code && code ≤ range.last

/-- The single lowercase character of a character, itself when it has none. -/
def lowerSimple (character : Char) : Char :=
  if character.toNat < 128 then character.toLower
  else
    match lowercaseRuns.find? (·.contains character.toNat) with
    | none => character
    | some run => Char.ofNat (character.toNat + run.shift).toNat

def isCased (character : Char) : Bool :=
  casedRanges.any (·.contains character.toNat)

/-- A character that casing looks past, such as an accent or an apostrophe. -/
def isCaseIgnorable (character : Char) : Bool :=
  caseIgnorableRanges.any (·.contains character.toNat)

/-- Whether the nearest character that casing does not look past has case. -/
def meetsCased (text : List Char) : Bool :=
  match text.dropWhile isCaseIgnorable with
  | [] => false
  | character :: _ => isCased character

/-- Lowers a text of which the characters before, nearest first, are known. -/
def lowerAfter (before : List Char) : List Char → List Char
  | [] => []
  | character :: rest =>
    let lowered :=
      if character = '\u0130' then ['i', '\u0307']
      else if character = '\u03A3' then
        if meetsCased before && !meetsCased rest then ['\u03C2'] else ['\u03C3']
      else [lowerSimple character]
    lowered ++ lowerAfter (character :: before) rest

def lower (text : String) : String :=
  String.ofList (lowerAfter [] text.toList)

end RecordSql.Text
