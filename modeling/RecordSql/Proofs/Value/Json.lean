import RecordSql.Proofs.Json.Reading
import RecordSql.Proofs.Record
import RecordSql.Value.Json

/-!
# Values and records through JSON

A value is read back from its JSON form unless it is a double, a date or a
datetime, and so is a record of such values.
-/

namespace RecordSql

namespace Json

/-- A list is read back if its items are. -/
theorem mapM_map {α κ : Type} {write : α → κ} {read : κ → Option α}
    {items : List α} (each : ∀ item ∈ items, read (write item) = some item) :
    (items.map write).mapM read = some items := by
  induction items with
  | nil => rfl
  | cons item items induction =>
      rw [List.forall_mem_cons] at each
      simp [each.1, induction each.2]

theorem isExact_array {α : Type} {write : α → Json} {items : List α}
    (each : ∀ item ∈ items, (write item).IsExact) :
    (array (items.map write)).IsExact := by
  rw [IsExact, areExact_iff]
  exact List.forall_mem_map.mpr each

theorem byte?_toNat (byte : UInt8) :
    byte? (.integer byte.toNat) = some byte := by
  have below := byte.toNat_lt
  simp [byte?]
  omega

theorem int64?_toInt (value : Int64) :
    int64? (.integer value.toInt) = some value :=
  Number.toInt64?_toInt value

theorem fits_toInt (value : Int64) : Fits value.toInt := by
  have greatest : value.toInt ≤ Number.greatestInt64 := Int64.toInt_le value
  rw [Number.greatestInt64] at greatest
  exact ⟨Int64.le_toInt value, by omega⟩

end Json

namespace Value

/-- A value whose kind is told from its JSON form. -/
def IsPlain : Value → Prop
  | double _ | dateTime _ | date _ => False
  | _ => True

variable {value : Value}

theorem ofJson?_toJson (plain : value.IsPlain) :
    ofJson? value.toJson = some value := by
  cases value with
  | null | boolean _ | string _ => rfl
  | integer value =>
      have read := Number.toInt64?_toInt value
      simp only [toJson, ofJson?, read]
  | binary bytes =>
      have read : (bytes.map fun byte => Json.integer byte.toNat).mapM
          Json.byte? = some bytes :=
        Json.mapM_map fun byte _ => Json.byte?_toNat byte
      simp only [toJson, ofJson?, read, Option.map_some]
  | double _ | dateTime _ | date _ => exact plain.elim

theorem isExact_toJson (plain : value.IsPlain) : value.toJson.IsExact := by
  cases value with
  | null | boolean _ | string _ => trivial
  | integer value => exact Json.fits_toInt value
  | binary bytes =>
      apply Json.isExact_array
      intro byte _
      have below := byte.toNat_lt
      have fits : Json.Fits byte.toNat := by
        rw [Json.Fits, Number.leastInt64]
        omega
      exact fits
  | double _ | dateTime _ | date _ => exact plain.elim

/-- Only null is written as null. -/
theorem toJson_ne_null (plain : value.IsPlain) (present : value ≠ .null) :
    value.toJson ≠ .null := by
  cases value with
  | null => exact absurd rfl present
  | double _ | dateTime _ | date _ => exact plain.elim
  | _ => exact nofun

end Value

namespace Record

/-- A record of values whose kinds are told from their JSON forms. -/
def IsPlain (record : Record) : Prop := ∀ field ∈ record.fields, field.2.IsPlain

variable {record : Record}

theorem ofJson?_toJson (plain : record.IsPlain) :
    ofJson? record.toJson = some record := by
  have fields : (record.fields.map fun field => (field.1, field.2.toJson)).mapM
          (fun member => (Value.ofJson? member.2).map fun value =>
            (member.1, value)) =
        some record.fields := by
    apply Json.mapM_map
    intro field member
    rw [Value.ofJson?_toJson (plain field member)]
    rfl
  rw [toJson, ofJson?, fields, Option.map_some, ofList_fields]

theorem isExact_toJson (plain : record.IsPlain) : record.toJson.IsExact := by
  rw [toJson, Json.IsExact, Json.haveExactValues_iff]
  exact List.forall_mem_map.mpr fun field member =>
    Value.isExact_toJson (plain field member)

end Record

end RecordSql
