import RecordSql.Column

/-!
# The registry of tables

The columns of a table are asked for once and then remembered. A name is given a
slot on first mention, and the slot is filled when the columns are known; a slot
that could not be filled loses its name, so that a later call tries again. Slots
keep their numbers, and callers that hold one may fill it after it has lost its
name.
-/

namespace RecordSql

inductive SlotContent where
  | vacant
  /-- One caller is asking for the columns. -/
  | busy
  | filled (table : Table)
  deriving DecidableEq

def SlotContent.table? : SlotContent → Option Table
  | filled table => some table
  | _ => none

/-- The names that have slots, and all slots ever made. -/
structure Registry where
  names : List (String × Nat)
  slots : List SlotContent
  deriving DecidableEq

namespace Registry

def empty : Registry := ⟨[], []⟩

def slotOf? (registry : Registry) (name : String) : Option Nat :=
  (registry.names.find? fun entry => entry.1 == name).map Prod.snd

/-- What a slot holds; one that was never made is vacant. -/
def content (registry : Registry) (slot : Nat) : SlotContent :=
  (registry.slots[slot]?).getD .vacant

/-- The slot of a name, made on first mention. -/
def claim (registry : Registry) (name : String) : Nat × Registry :=
  match registry.slotOf? name with
  | some slot => (slot, registry)
  | none =>
    let slot := registry.slots.length
    (slot, ⟨registry.names ++ [(name, slot)], registry.slots ++ [.vacant]⟩)

def put (registry : Registry) (slot : Nat) (content : SlotContent) : Registry :=
  { registry with slots := registry.slots.set slot content }

/-- Takes a slot from its name, unless it is filled or the name has
another by now. -/
def evict (registry : Registry) (name : String) (slot : Nat) : Registry :=
  if registry.slotOf? name = some slot ∧
      (registry.content slot).table? = none then
    { registry with names :=
      registry.names.filter fun entry => !(entry.1 == name) }
  else registry

/-- The table of a name, if its columns are known. -/
def cached? (registry : Registry) (name : String) : Option Table :=
  (registry.slotOf? name).bind fun slot => (registry.content slot).table?

/-- The number of names whose columns are known. -/
def loadedCount (registry : Registry) : Nat :=
  (registry.names.filter fun entry =>
    (registry.content entry.2).table?.isSome).length

def isEmpty (registry : Registry) : Bool :=
  registry.loadedCount == 0

end Registry

end RecordSql
