/-!
# Items with separators

Reading items one after another with the same separator between them, by a
reader of one item.
-/

namespace RecordSql.Text

variable {α : Type}

/-- Reads at most so many items. -/
def readItemsWithin (separator : List Char)
    (read : List Char → Option (α × List Char)) :
    Nat → List Char → Option (List α × List Char)
  | 0, _ => none
  | count + 1, text => do
    let (item, rest) ← read text
    match separator.isPrefixOf? rest with
    | none => some ([item], rest)
    | some rest => do
      let (items, rest) ← readItemsWithin separator read count rest
      some (item :: items, rest)

/-- Reads an item and, as long as the separator follows, one more. -/
def readItems (separator : List Char)
    (read : List Char → Option (α × List Char)) (text : List Char) :
    Option (List α × List Char) :=
  readItemsWithin separator read text.length text

end RecordSql.Text
