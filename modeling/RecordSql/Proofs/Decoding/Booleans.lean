import RecordSql.Proofs.Decoding

/-!
# Booleans in columns

Three type names declare a column of booleans, and so does the name of tiny
integers with the size one.  Binding goes by name and size, decoding by the name
alone: under the three names a boolean that the driver reports is one, under the
fourth it is a whole number.
-/

namespace RecordSql

theorem ColumnKind.classify_eq_boolean_iff {base : String} {size : Option Nat} :
    classify base size = boolean ↔
      base = "tinyint" ∧ size = some 1 ∨ base ∈ ["bool", "boolean", "bit"] := by
  unfold classify
  split_ifs with flag named
  · simp [flag]
  · simp [named]
  all_goals simp [flag, named]

namespace Formats

variable {formats : Formats} {declared : DeclaredColumn}

theorem bind_boolean_of_boolean
    (boolean : (Column.ofDeclared declared).kind = .boolean) (value : Bool) :
    formats.bind (.boolean value) (.ofDeclared declared) =
      .ok (.boolean value) := by
  simp [bind, boolean, booleanParam]

/-- A column that is bound as one of booleans is decoded as one or as one
of whole numbers. -/
theorem decode_boolean_of_boolean
    (boolean : (Column.ofDeclared declared).kind = .boolean) (value : Bool) :
    formats.decode (.boolean value) declared.type =
      if baseType declared.type = "tinyint" then
      .integer (if value then 1 else 0)
      else .boolean value := by
  have decoded :=
    @decode_eq_decodeBase formats (.boolean value) nofun declared.type
  rcases ColumnKind.classify_eq_boolean_iff.mp boolean with ⟨tiny, _⟩ | named
  · rw [decoded, tiny]
    rfl
  · have agree :
        ¬ Disagree (baseType declared.type) (declaredSize declared.type) := by
      simp only [List.mem_cons, List.not_mem_nil, or_false] at named
      rcases named with name | name | name <;> simp [Disagree, name]
    have notTiny : baseType declared.type ≠ "tinyint" := fun tiny => by
      simp [tiny] at named
    have kind : ColumnKind.classify (baseType declared.type)
          (declaredSize declared.type) =
        .boolean := boolean
    rw [decoded, decodeBase_eq_decodeKind agree, kind, if_neg notTiny]
    rfl

/-- Every boolean can be bound to a column of booleans.  Reported by the
driver, it is read back as it was if and only if the column is not declared as
one of tiny integers. -/
theorem keepsBoolean_iff (formats : Formats)
    (boolean : (Column.ofDeclared declared).kind = .boolean) (value : Bool) :
    formats.bind (.boolean value) (.ofDeclared declared) =
        .ok (.boolean value) ∧
      (formats.decode (.boolean value) declared.type = .boolean value ↔
        baseType declared.type ≠ "tinyint") := by
  refine ⟨bind_boolean_of_boolean boolean value, ?_⟩
  rw [decode_boolean_of_boolean boolean]
  split
  · next tiny => simp [tiny]
  · next notTiny => simp [notTiny]

/-- A bit with a size and letters of both cases. -/
theorem keepsBoolean_iff_bit :
    let formats : Formats := ⟨none, none⟩
    let flag : DeclaredColumn :=
      ⟨"flag", " BIT (8) unsigned", true, false, none⟩
    (Column.ofDeclared flag).kind = .boolean ∧ baseType flag.type ≠ "tinyint" ∧
      formats.bind (.boolean false) (.ofDeclared flag) = .ok (.boolean false) ∧
      formats.decode (.boolean false) flag.type = .boolean false := by
  intro formats flag
  have boolean : (Column.ofDeclared flag).kind = .boolean := by decide +kernel
  have notTiny : baseType flag.type ≠ "tinyint" := by decide +kernel
  obtain ⟨bound, kept⟩ := keepsBoolean_iff formats boolean false
  exact ⟨boolean, notTiny, bound, kept.mpr notTiny⟩

/-- A tiny integer of size one takes a boolean for one and gives back
a whole number. -/
theorem not_keepsBoolean_tinyInteger :
    let formats : Formats := ⟨none, none⟩
    let flag : DeclaredColumn := ⟨"flag", "tinyint(1)", true, false, none⟩
    (Column.ofDeclared flag).kind = .boolean ∧
      formats.bind (.boolean true) (.ofDeclared flag) = .ok (.boolean true) ∧
      formats.decode (.boolean true) flag.type = .integer 1 ∧
      formats.decode (.boolean true) flag.type ≠ .boolean true := by
  intro formats flag
  have boolean : (Column.ofDeclared flag).kind = .boolean := by decide +kernel
  exact ⟨boolean,
    bind_boolean_of_boolean boolean true, by decide +kernel, by decide +kernel⟩

end Formats

end RecordSql
