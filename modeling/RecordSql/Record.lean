import RecordSql.Value

/-!
# Records and keys

A record is a sparse row: a field that is absent is left alone, while a
field that is null is written as NULL.  Its fields are kept in the order of
their names.  Keys are named values with distinct names, in the order in
which the names were given first.
-/

namespace RecordSql

/-- A sparse row. -/
@[ext] structure Record where
  fields : List (String × Value)
  /-- The names increase, so each of them stands once. -/
  ordered : fields.Pairwise fun first second => first.1 < second.1
  deriving DecidableEq

namespace Record

def empty : Record := ⟨[], .nil⟩

/-- Puts a field at its place among ordered fields, over one of the same
name. -/
def insertField (name : String) (value : Value) :
    List (String × Value) → List (String × Value)
  | [] => [(name, value)]
  | field :: fields =>
    if name < field.1 then (name, value) :: field :: fields
    else if name = field.1 then (name, value) :: fields
    else field :: insertField name value fields

theorem mem_insertField {fields : List (String × Value)} {name : String}
    {value : Value} {field : String × Value}
    (member : field ∈ insertField name value fields) :
    field = (name, value) ∨ field ∈ fields := by
  induction fields with
  | nil => exact .inl (List.mem_singleton.mp member)
  | cons first fields induction =>
      rw [insertField] at member
      split at member
      · simpa using member
      split at member
      · rcases List.mem_cons.mp member with new | old
        · exact .inl new
        · exact .inr (List.mem_cons_of_mem first old)
      · rcases List.mem_cons.mp member with same | inserted
        · exact .inr (same ▸ List.mem_cons_self)
        · rcases induction inserted with new | old
          · exact .inl new
          · exact .inr (List.mem_cons_of_mem first old)

theorem pairwise_insertField {fields : List (String × Value)}
    (ordered : fields.Pairwise fun first second => first.1 < second.1)
    (name : String) (value : Value) :
    (insertField name value fields).Pairwise
      fun first second => first.1 < second.1 := by
  induction fields with
  | nil => exact List.pairwise_singleton _ _
  | cons first fields induction =>
      obtain ⟨before, rest⟩ := List.pairwise_cons.mp ordered
      rw [insertField]
      split
      · next less =>
          refine List.pairwise_cons.mpr ⟨?_, ordered⟩
          rw [List.forall_mem_cons]
          exact ⟨less, fun field member =>
            String.lt_trans less (before field member)⟩
      next notLess =>
        split
        · next same => exact List.pairwise_cons.mpr ⟨same ▸ before, rest⟩
        · next other =>
            refine List.pairwise_cons.mpr ⟨?_, induction rest⟩
            intro field member
            rcases mem_insertField member with rfl | old
            · exact Std.lt_of_le_of_ne (String.not_lt.mp notLess)
                (Ne.symm other)
            · exact before field old

def set (record : Record) (name : String) (value : Value) : Record :=
  ⟨insertField name value record.fields,
    pairwise_insertField record.ordered name value⟩

def unset (record : Record) (name : String) : Record :=
  ⟨record.fields.filter fun field => !(field.1 == name),
    record.ordered.filter _⟩

def get? (record : Record) (name : String) : Option Value :=
  (record.fields.find? fun field => field.1 == name).map Prod.snd

/-- Whether a field is present, be it null. -/
def has (record : Record) (name : String) : Bool :=
  (record.get? name).isSome

/-- The record with these fields; of two with one name the later counts. -/
def ofList (fields : List (String × Value)) : Record :=
  fields.foldl (fun record field => record.set field.1 field.2) empty

end Record

/-- Named values in the order of their first mention. -/
@[ext] structure Keys where
  entries : List (String × Value)
  distinct : (entries.map Prod.fst).Nodup
  deriving DecidableEq

namespace Keys

def empty : Keys := ⟨[], .nil⟩

/-- Gives a key its value in place, or adds it at the end. -/
def insertEntry (name : String) (value : Value) :
    List (String × Value) → List (String × Value)
  | [] => [(name, value)]
  | entry :: entries =>
    if entry.1 = name then (name, value) :: entries
    else entry :: insertEntry name value entries

theorem names_insertEntry {name : String} {value : Value}
    {entries : List (String × Value)} :
    (insertEntry name value entries).map Prod.fst =
      if name ∈ entries.map Prod.fst then entries.map Prod.fst
      else entries.map Prod.fst ++ [name] := by
  induction entries with
  | nil => rfl
  | cons first entries induction =>
      rw [insertEntry]
      by_cases same : first.1 = name
      · simp [same]
      · rw [if_neg same, List.map_cons, induction, List.map_cons]
        simp only [List.mem_cons, or_iff_right (Ne.symm same)]
        split
        · rfl
        · rfl

theorem nodup_insertEntry {entries : List (String × Value)}
    (distinct : (entries.map Prod.fst).Nodup) (name : String)
    (value : Value) :
    ((insertEntry name value entries).map Prod.fst).Nodup := by
  rw [names_insertEntry]
  split
  · exact distinct
  · next new =>
      refine List.nodup_append.mpr
        ⟨distinct, List.pairwise_singleton _ _, ?_⟩
      intro earlier member last isLast same
      obtain rfl := List.mem_singleton.mp isLast
      exact new (same ▸ member)

/-- Adds a key; one of the same name takes the new value and keeps its
place. -/
def insert (keys : Keys) (name : String) (value : Value) : Keys :=
  ⟨insertEntry name value keys.entries,
    nodup_insertEntry keys.distinct name value⟩

def get? (keys : Keys) (name : String) : Option Value :=
  (keys.entries.find? fun entry => entry.1 == name).map Prod.snd

def isEmpty (keys : Keys) : Bool := keys.entries.isEmpty

/-- The keys with these entries added one after another. -/
def ofList (entries : List (String × Value)) : Keys :=
  entries.foldl (fun keys entry => keys.insert entry.1 entry.2) empty

end Keys

end RecordSql
