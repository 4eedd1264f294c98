import RecordSql.Json

/-!
# Shapes of JSON values

Readers for the three shapes in which typed data stands in JSON: a structure,
written as an object or as the array of its fields in order; a list; and one of
a set of names.
-/

namespace RecordSql.Json

def string? : Json → Option String
  | .string value => some value
  | _ => none

def boolean? : Json → Option Bool
  | .boolean value => some value
  | _ => none

def int64? : Json → Option Int64
  | .integer value => Number.toInt64? value
  | _ => none

def byte? : Json → Option UInt8
  | .integer value =>
      if 0 ≤ value ∧ value < 256 then some (UInt8.ofNat value.toNat) else none
  | _ => none

/-- The items of a list, each read in the same way. -/
def list? {α : Type} (read : Json → Option α) : Json → Option (List α)
  | .array items => items.mapM read
  | _ => none

/-- Null, or a value read by `read`. -/
def nullable? {α : Type} (read : Json → Option α) : Json → Option (Option α)
  | .null => some none
  | json => (read json).map some

/-- One of a set of names: the name as a string, or as the only member of an
object with the value null. -/
def name? : Json → Option String
  | .string value => some value
  | .object [(name, .null)] => some name
  | _ => none

def valuesOf (members : List (String × Json)) (name : String) : List Json :=
  (members.filter fun member => member.1 == name).map Prod.snd

/-- The fields of a structure, absent ones as none. In an object other members
are passed over and a repeated field is refused; an array gives a first part of
the fields in order. -/
def fields? (names : List String) : Json → Option (List (Option Json))
  | .object members =>
    names.mapM fun name =>
      match valuesOf members name with
      | [] => some none
      | [value] => some (some value)
      | _ => none
  | .array items =>
    if items.length ≤ names.length then
      some ((items.map some) ++
        List.replicate (names.length - items.length) none)
    else none
  | _ => none

def required? {α : Type} (read : Json → Option α) : Option Json → Option α
  | none => none
  | some json => read json

/-- A field that takes a default value where it is absent. -/
def defaulted? {α : Type} (default : α) (read : Json → Option α) :
    Option Json → Option α
  | none => some default
  | some json => read json

mutual

/-- The value with only the last of repeated members, at the
place of the first. -/
def lastWins : Json → Json
  | .array items => .array (lastWinsList items)
  | .object members => .object (lastWinsMembers members [])
  | json => json

/-- List counterpart of `lastWins`. -/
def lastWinsList : List Json → List Json
  | [] => []
  | item :: items => lastWins item :: lastWinsList items

/-- Adds members to those seen, over the ones of the same name. -/
def lastWinsMembers :
    List (String × Json) → List (String × Json) → List (String × Json)
  | [], seen => seen
  | (name, value) :: members, seen =>
    let value := lastWins value
    lastWinsMembers members <|
      if seen.any fun member => member.1 == name then
        seen.map fun member =>
          if member.1 == name then (name, value) else member
      else seen ++ [(name, value)]

end

end RecordSql.Json
