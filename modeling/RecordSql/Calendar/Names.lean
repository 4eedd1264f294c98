/-!
# Names of months and weekdays

The English names, whole and cut to three letters, and the readers that find a
name at the start of a text whatever the case of its letters.
-/

namespace RecordSql.Calendar

def monthNames : List (List Char) :=
  ["January".toList, "February".toList, "March".toList, "April".toList,
    "May".toList, "June".toList, "July".toList, "August".toList,
    "September".toList, "October".toList, "November".toList, "December".toList]

def weekdayNames : List (List Char) :=
  ["Monday".toList, "Tuesday".toList, "Wednesday".toList, "Thursday".toList,
    "Friday".toList, "Saturday".toList, "Sunday".toList]

def nameAt (names : List (List Char)) (index : Nat) : List Char :=
  names.getD index []

def shortName (name : List Char) : List Char := name.take 3

/-- What follows a word at the start of a text, whatever the case
of the letters. -/
def afterWord? : List Char → List Char → Option (List Char)
  | [], text => some text
  | _ :: _, [] => none
  | letter :: word, character :: text =>
    if letter.toLower = character.toLower then afterWord? word text else none

/-- The position of the first name of which a text starts with the first three
letters, and what follows them. -/
def readShortName? (text : List Char) :
    Nat → List (List Char) → Option (Nat × List Char)
  | _, [] => none
  | index, name :: names =>
    match afterWord? (shortName name) text with
    | some rest => some (index, rest)
    | none => readShortName? text (index + 1) names

/-- The position of a name at the start of a text, whole or in three letters,
and what follows it. -/
def readName? (names : List (List Char)) (text : List Char) :
    Option (Nat × List Char) :=
  match readShortName? text 0 names with
  | none => none
  | some (index, rest) =>
    match afterWord? ((nameAt names index).drop 3) rest with
    | some afterWhole => some (index, afterWhole)
    | none => some (index, rest)

end RecordSql.Calendar
