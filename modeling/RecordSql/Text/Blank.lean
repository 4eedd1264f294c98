/-!
# Blank characters

The characters of the White_Space property, and what is built on them:
trimming and the words of a text.
-/

namespace RecordSql.Text

/-- A character of the White_Space property. -/
def isBlank (character : Char) : Bool :=
  let code := character.toNat
  (9 ≤ code && code ≤ 13) || code = 0x20 || code = 0x85 || code = 0xA0 ||
    code = 0x1680 || (0x2000 ≤ code && code ≤ 0x200A) || code = 0x2028 ||
    code = 0x2029 || code = 0x202F || code = 0x205F || code = 0x3000

def dropBlanks (text : List Char) : List Char :=
  text.dropWhile isBlank

def dropTrailing (test : Char → Bool) (text : List Char) : List Char :=
  (text.reverse.dropWhile test).reverse

def trimChars (text : List Char) : List Char :=
  dropTrailing isBlank (dropBlanks text)

def trim (text : String) : String :=
  String.ofList (trimChars text.toList)

def isAllBlank (text : String) : Bool :=
  text.toList.all isBlank

/-- The pieces between separators, in order; a text without
separator is one piece. -/
def splitOn (separator : Char → Bool) : List Char → List (List Char)
  | [] => [[]]
  | character :: rest =>
    match separator character, splitOn separator rest with
    | true, pieces => [] :: pieces
    | false, [] => [[character]]
    | false, piece :: pieces => (character :: piece) :: pieces

def pieces (separator : Char) (text : String) : List String :=
  (splitOn (· == separator) text.toList).map String.ofList

/-- The words of a text: its longest runs without blanks, in order. -/
def words (text : List Char) : List (List Char) :=
  (splitOn isBlank text).filter fun word => !word.isEmpty

@[simp] theorem splitOn_nil (separator : Char → Bool) :
    splitOn separator [] = [[]] :=
  rfl

theorem splitOn_ne_nil (separator : Char → Bool) (text : List Char) :
    splitOn separator text ≠ [] := by
  cases text with
  | nil => simp [splitOn]
  | cons character rest =>
      simp only [splitOn]
      split <;> simp

theorem splitOn_eq_splitOnP (separates : Char → Bool) (text : List Char) :
    splitOn separates text = text.splitOnP separates := by
  induction text with
  | nil => rfl
  | cons character rest induction =>
      rw [List.splitOnP_cons_eq_if_modifyHead, ← induction, splitOn]
      cases cut : splitOn separates rest with
      | nil => exact absurd cut (splitOn_ne_nil separates rest)
      | cons piece pieces => cases separates character <;> rfl

theorem splitOn_eq_splitOn (separator : Char) (text : List Char) :
    splitOn (· == separator) text = text.splitOn separator := by
  rw [splitOn_eq_splitOnP, List.splitOn_eq_splitOnP]

theorem intercalate_splitOn (separator : Char) (text : List Char) :
    [separator].intercalate (splitOn (· == separator) text) = text := by
  rw [splitOn_eq_splitOn, List.intercalate_splitOn]

theorem not_mem_of_mem_splitOn {separator : Char} {text piece : List Char}
    (member : piece ∈ splitOn (· == separator) text) : separator ∉ piece := by
  induction text generalizing piece with
  | nil =>
      obtain rfl : piece = [] := by simpa using member
      exact List.not_mem_nil
  | cons character rest induction =>
      rw [splitOn] at member
      split at member
      · rcases List.mem_cons.mp member with rfl | later
        · exact List.not_mem_nil
        · exact induction later
      · next nothing => exact absurd nothing (splitOn_ne_nil _ _)
      · next first others differs cut =>
          rw [cut] at induction
          rcases List.mem_cons.mp member with rfl | later
          · have different : separator ≠ character := fun same => by
              simp [same] at differs
            exact List.not_mem_cons_of_ne_of_not_mem different
              (induction List.mem_cons_self)
          · exact induction (List.mem_cons_of_mem _ later)

end RecordSql.Text
