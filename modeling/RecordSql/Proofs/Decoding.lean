import Mathlib.Tactic.SplitIfs
import RecordSql.Decoding

/-!
# What comes back from a column

A value is bound by the kind that its column was classified into, and a cell is
decoded by the base name of the declared type, each by a table of its own.
Where the two tables agree, every value of a column's own kind comes back as it
was.  They disagree on tiny integers of size one, which are bound as booleans
and decoded as integers, and on decimal numbers, which are bound as texts and
decoded as doubles.
-/

namespace RecordSql

/-- The cell of the same kind as a parameter. -/
def Param.cell : Param → Cell
  | null => .null
  | integer value => .integer value
  | double value => .real value
  | boolean value => .boolean value
  | text value => .text value
  | bytes value => .blob value

/-- Values of the kind of a column that is not temporal; null
suits every column. -/
inductive Value.Suits : Value → ColumnKind → Prop where
  | null (kind : ColumnKind) : Suits .null kind
  | integer (value : Int64) : Suits (.integer value) .integer
  | double {value : Double} (finite : value.isFinite = true) :
      Suits (.double value) .double
  | boolean (value : Bool) : Suits (.boolean value) .boolean
  | binary (bytes : List UInt8) : Suits (.binary bytes) .binary
  | string (value : String) : Suits (.string value) .string

namespace Formats

variable {formats : Formats} {base : String} {size : Option Nat}

/-- Every value that suits a column can be bound to it, and comes back from the
cell that holds the parameter. -/
def GivesBack (formats : Formats) (declared : DeclaredColumn) : Prop :=
  ∀ value : Value, value.Suits (Column.ofDeclared declared).kind →
    ∃ param, formats.bind value (.ofDeclared declared) = .ok param ∧
      formats.decode param.cell declared.type = value

/-- The declared types that are bound by one row and decoded by another. -/
def Disagree (base : String) (size : Option Nat) : Prop :=
  base = "tinyint" ∧ size = some 1 ∨ base ∈ ["decimal", "numeric"]

/-- The value of a cell in a column of a kind. -/
def decodeKind (formats : Formats) (kind : ColumnKind) (cell : Cell) : Value :=
  match kind with
  | .integer => cell.integerValue
  | .double => cell.doubleValue
  | .date => formats.dateValue cell
  | .dateTime => formats.dateTimeValue cell
  | .binary => cell.bytesValue
  | .boolean | .string => cell.value

/-- The names of each row of the first table stand together in the second one
too. -/
theorem decodeBase_eq_decodeKind (agree : ¬ Disagree base size) (cell : Cell) :
    formats.decodeBase base cell =
      formats.decodeKind (.classify base size) cell := by
  rw [Disagree, not_or] at agree
  obtain ⟨notFlag, notDecimal⟩ := agree
  simp only [List.mem_cons, List.not_mem_nil, or_false] at notDecimal
  unfold ColumnKind.classify
  simp only [List.mem_cons, List.not_mem_nil, or_false, notFlag, if_false]
  split_ifs with boolean integer double date dateTime binary
  · rcases boolean with rfl | rfl | rfl <;> rfl
  · rcases integer with rfl | rfl | rfl | rfl | rfl | rfl | rfl <;> rfl
  · rcases double with rfl | rfl | rfl <;> rfl
  · rw [date]
    rfl
  · rcases dateTime with rfl | rfl <;> rfl
  · rcases binary with rfl | rfl | rfl | rfl | rfl | rfl | rfl | rfl <;> rfl
  · simp only [not_or] at *
    simp [decodeBase, decodeKind, *]

theorem decode_eq_decodeBase {cell : Cell} (present : cell ≠ .null)
    (type : String) :
    formats.decode cell type = formats.decodeBase (baseType type) cell := by
  cases cell with
  | null => exact absurd rfl present
  | integer | real | text | blob | boolean => rfl

/-- A parameter that was bound by kind and is decoded by kind is
the value again. -/
private theorem decodeKind_of_suits {column : Column} {value : Value}
    (suits : value.Suits column.kind) :
    ∃ param, formats.bind value column = .ok param ∧
      (param = .null ∧ value = .null ∨
        param.cell ≠ .null ∧
          formats.decodeKind column.kind param.cell = value) := by
  generalize kind : column.kind = columnKind at suits
  cases suits with
  | null => exact ⟨.null, rfl, .inl ⟨rfl, rfl⟩⟩
  | integer value =>
      exact ⟨.integer value, by
        simp [bind, kind, Value.whole?], .inr ⟨nofun, rfl⟩⟩
  | @double value finite =>
      have bound : formats.bind (.double value) column =
          .ok (.double value) := by
        simp [bind, kind, Value.finiteDouble?, Double.finite?, finite]
      exact ⟨.double value, bound, .inr ⟨nofun, rfl⟩⟩
  | boolean value =>
      exact ⟨.boolean value, by
        simp [bind, kind, booleanParam], .inr ⟨nofun, rfl⟩⟩
  | binary bytes =>
      exact ⟨.bytes bytes, by simp [bind, kind], .inr ⟨nofun, rfl⟩⟩
  | string value =>
      exact ⟨.text value, by simp [bind, kind, plainText], .inr ⟨nofun, rfl⟩⟩

/-- A tiny integer of size one takes a boolean for one and gives
back an integer. -/
private theorem not_givesBack_flag {declared : DeclaredColumn}
    (tiny : baseType declared.type = "tinyint")
    (one : declaredSize declared.type = some 1) :
    ¬ formats.GivesBack declared := by
  intro givesBack
  have kind : (Column.ofDeclared declared).kind = .boolean := by
    simp [Column.ofDeclared, ColumnKind.classify, tiny, one]
  obtain ⟨param, bound, back⟩ :=
    givesBack (.boolean true) (by rw [kind]; exact .boolean true)
  obtain rfl : .boolean true = param := by
    simpa [bind, kind, booleanParam] using bound
  have decoded : formats.decode (.boolean true) declared.type = .integer 1 := by
    change formats.decodeBase (baseType declared.type) (.boolean true) =
      .integer 1
    rw [tiny]
    rfl
  cases decoded.symm.trans back

/-- A decimal number takes a text for what it is and gives back the double
that it reads as. -/
private theorem not_givesBack_decimal {declared : DeclaredColumn}
    (decimal : baseType declared.type ∈ ["decimal", "numeric"]) :
    ¬ formats.GivesBack declared := by
  intro givesBack
  simp only [List.mem_cons, List.not_mem_nil, or_false] at decimal
  have kind : (Column.ofDeclared declared).kind = .string := by
    rcases decimal with same | same <;>
      simp [Column.ofDeclared, ColumnKind.classify, same]
  obtain ⟨param, bound, back⟩ :=
    givesBack (.string "NaN") (by rw [kind]; exact .string "NaN")
  obtain rfl : .text "NaN" = param := by
    simpa [bind, kind, plainText] using bound
  have decoded : formats.decode (.text "NaN") declared.type = .double .nan := by
    change formats.decodeBase (baseType declared.type) (.text "NaN") =
      .double .nan
    rcases decimal with same | same <;> rw [same] <;> rfl
  cases decoded.symm.trans back

/-- Whatever the patterns are, every value of a column's own kind comes back, if
and only if the tables agree on the declared type. -/
theorem givesBack_iff (formats : Formats) (declared : DeclaredColumn) :
    formats.GivesBack declared ↔
      ¬ Disagree (baseType declared.type) (declaredSize declared.type) := by
  constructor
  · rintro givesBack (⟨tiny, one⟩ | decimal)
    · exact not_givesBack_flag tiny one givesBack
    · exact not_givesBack_decimal decimal givesBack
  · intro agree value suits
    obtain ⟨param, bound, ⟨rfl, rfl⟩ | ⟨present, back⟩⟩ :=
      decodeKind_of_suits suits
    · exact ⟨.null, bound, rfl⟩
    · refine ⟨param, bound, ?_⟩
      rw [decode_eq_decodeBase present, decodeBase_eq_decodeKind agree]
      exact back

end Formats

end RecordSql
