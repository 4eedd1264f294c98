import RecordSql.Proofs.Binding

/-!
# Nulls and finite numbers

What is bound is null for a null alone, and a double that is bound is finite.
Every way from a value to a parameter keeps to this: the kinds of columns, and
the kinds of values where there is no column.
-/

namespace RecordSql

/-- A parameter that is no double, or a finite one. -/
def Param.IsFinite : Param → Prop
  | double value => value.isFinite = true
  | _ => True

/-- A parameter that is neither null nor a double without a finite number. -/
structure Param.Definite (param : Param) : Prop where
  notNull : param ≠ .null
  finite : param.IsFinite

namespace Param

theorem definite_integer (value : Int64) : (integer value).Definite :=
  ⟨by simp, trivial⟩

theorem definite_boolean (value : Bool) : (boolean value).Definite :=
  ⟨by simp, trivial⟩

theorem definite_text (value : String) : (text value).Definite :=
  ⟨by simp, trivial⟩

theorem definite_bytes (value : List UInt8) : (bytes value).Definite :=
  ⟨by simp, trivial⟩

theorem definite_double {value : Double} (finite : value.isFinite = true) :
    (double value).Definite := ⟨by simp, finite⟩

end Param

/-- A whole number of 64 bits is far below the greatest double. -/
theorem Double.isFinite_ofInt (value : Int64) :
    (Double.ofInt value.toInt).isFinite = true := by
  obtain ⟨least, most⟩ := Number.fitsInt64_toInt value
  have size : value.toInt.natAbs < 2 ^ 64 := by
    unfold Number.leastInt64 at least
    unfold Number.greatestInt64 at most
    omega
  have small : ((value.toInt.natAbs : ℕ) / (1 : ℕ) : ℚ) < 2 ^ 1023 := by
    rw [Nat.cast_one, div_one]
    calc ((value.toInt.natAbs : ℕ) : ℚ) < 2 ^ 64 := by exact_mod_cast size
      _ < 2 ^ 1023 := pow_lt_pow_right₀ (by norm_num) (by norm_num)
  obtain ⟨magnitude, nearest⟩ :=
    Magnitude.exists_nearest?_of_lt Nat.one_pos small
  rw [ofInt, ofQuotient, nearest]
  rfl

theorem Double.isFinite_of_finite? {given double : Double}
    (finite : given.finite? = some double) : double.isFinite = true := by
  unfold Double.finite? at finite
  split at finite
  · next isFinite =>
      cases finite
      exact isFinite
  · cases finite

theorem Value.isFinite_of_finiteDouble? {value : Value} {double : Double}
    (finite : value.finiteDouble? = some double) : double.isFinite = true := by
  cases value with
  | integer value =>
      cases finite
      exact Double.isFinite_ofInt value
  | boolean value =>
      cases finite
      cases value <;> rfl
  | double value => exact Double.isFinite_of_finite? finite
  | string text =>
      obtain ⟨given, _, isFinite⟩ := Option.bind_eq_some_iff.mp finite
      exact Double.isFinite_of_finite? isFinite
  | null | dateTime | date | binary => cases finite

namespace Formats

variable {formats : Formats} {value : Value} {column : Column} {param : Param}

private theorem definite_booleanParam (formats : Formats) (value : Value) :
    (formats.booleanParam value).Definite := by
  cases value with
  | boolean value => exact Param.definite_boolean value
  | integer value => exact Param.definite_boolean _
  | double value => exact Param.definite_boolean _
  | string text =>
      simp only [booleanParam]
      split
      · exact Param.definite_boolean true
      · split
        · exact Param.definite_boolean false
        · exact Param.definite_text text
  | null | dateTime | date | binary => exact Param.definite_text _

private theorem exists_text_of_bind (present : value ≠ .null)
    (textual : column.kind = .date ∨ column.kind = .dateTime ∨
      column.kind = .string) :
    ∃ text, formats.bind value column = .ok (.text text) := by
  cases value with
  | null => exact absurd rfl present
  | _ =>
      rcases textual with kind | kind | kind
      · exact ⟨_, by simp only [bind, kind]; rfl⟩
      · exact ⟨_, by simp only [bind, kind]; rfl⟩
      · exact ⟨_, by simp only [bind, kind]; rfl⟩

/-- A value that is not null is bound to what is not null, in a
column of any kind. -/
theorem definite_of_bind (present : value ≠ .null)
    (bound : formats.bind value column = .ok param) : param.Definite := by
  have textual (kind : column.kind = .date ∨ column.kind = .dateTime ∨
        column.kind = .string) :
      param.Definite := by
    obtain ⟨text, boundText⟩ :=
      @exists_text_of_bind formats value column present kind
    cases boundText.symm.trans bound
    exact Param.definite_text text
  cases kind : column.kind with
  | date => exact textual (.inl kind)
  | dateTime => exact textual (.inr (.inl kind))
  | string => exact textual (.inr (.inr kind))
  | integer =>
      cases value with
      | null => exact absurd rfl present
      | _ =>
          simp only [bind, kind] at bound
          split at bound
          · cases bound
            exact Param.definite_integer _
          · cases bound
  | double =>
      cases value with
      | null => exact absurd rfl present
      | _ =>
          simp only [bind, kind] at bound
          split at bound
          · next finite =>
              cases bound
              exact Param.definite_double
                (Value.isFinite_of_finiteDouble? finite)
          · cases bound
  | boolean =>
      cases value with
      | null => exact absurd rfl present
      | _ =>
          simp only [bind, kind] at bound
          cases bound
          exact definite_booleanParam formats _
  | binary =>
      cases value with
      | null => exact absurd rfl present
      | binary bytes | string text =>
          simp only [bind, kind] at bound
          cases bound
          exact Param.definite_bytes _
      | _ =>
          simp only [bind, kind] at bound
          cases bound

theorem bind_eq_null_iff :
    formats.bind value column = .ok .null ↔ value = .null := by
  constructor
  · intro bound
    by_contra present
    exact (definite_of_bind present bound).notNull rfl
  · rintro rfl
    rfl

theorem isFinite_of_bind (bound : formats.bind value column = .ok param) :
    param.IsFinite := by
  by_cases null : value = .null
  · subst null
    cases bound
    trivial
  · exact (definite_of_bind null bound).finite

/-- A value that is bound by its own kind is taken over as it is, or
written as a text. -/
theorem definite_of_bindOperand (present : value ≠ .null)
    (bound : formats.bindOperand value = .ok param) : param.Definite := by
  cases value with
  | null => exact absurd rfl present
  | boolean value =>
      cases bound
      exact Param.definite_boolean value
  | integer value =>
      cases bound
      exact Param.definite_integer value
  | double value =>
      simp only [bindOperand] at bound
      split at bound
      · next finite =>
          cases bound
          exact Param.definite_double finite
      · cases bound
  | binary bytes =>
      cases bound
      exact Param.definite_bytes bytes
  | date | dateTime | string =>
      cases bound
      exact Param.definite_text _

end Formats

end RecordSql
