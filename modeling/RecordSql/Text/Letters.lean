/-!
# ASCII letters

Case maps and classes that touch the 26 letters of ASCII and leave every other
character alone: type names, keywords and meridiems are compared through them.
-/

namespace RecordSql.Text

def lowerAscii (text : String) : String :=
  text.map Char.toLower

def upperAsciiChars (text : List Char) : List Char :=
  text.map Char.toUpper

def startsWord (character : Char) : Bool :=
  character.isAlpha || character == '_'

def continuesWord (character : Char) : Bool :=
  character.isAlphanum || character == '_'

/-- A plain word: a letter or underscore, then letters, digits
and underscores. -/
def isPlainWord (text : String) : Bool :=
  match text.toList with
  | [] => false
  | first :: rest => startsWord first && rest.all continuesWord

/-- What follows a word in small letters, which a text may start with in
letters of any case. -/
def afterWord? (word : String) (text : List Char) : Option (List Char) :=
  if (text.take word.length).map Char.toLower = word.toList then
    some (text.drop word.length)
  else none

end RecordSql.Text
