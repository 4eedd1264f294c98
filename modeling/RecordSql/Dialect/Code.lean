import RecordSql.Dialect

/-!
# Vendor codes

The error codes of each engine that are told apart: which constraint family a
code belongs to, and what the user is told.
-/

namespace RecordSql

inductive Violation where
  | notNull
  | foreignKey
  | unique
  deriving DecidableEq

def Violation.name : Violation → String
  | notNull => "not-null"
  | foreignKey => "foreign-key"
  | unique => "unique"

/-- A known error code; without a violation it is no constraint failure. -/
structure VendorCode where
  code : String
  violation : Option Violation
  message : String
  deriving DecidableEq

namespace Dialect

private def required : String :=
  "A required field was not filled in or was not provided"

private def unknownColumn : String :=
  "The query references a column that does not exist in the database"

private def missingParent : String :=
  "The record references a row in another table that does not exist"

private def stillReferenced : String :=
  "The record is still referenced by rows in another table"

private def duplicateKey : String :=
  "The record has a duplicate key (primary or unique)"

def codes : Dialect → List VendorCode
  | mysql _ =>
    [⟨"1364", some .notNull, required⟩, ⟨"1048", some .notNull, required⟩,
      ⟨"1054", none, unknownColumn⟩, ⟨"1452", some .foreignKey, missingParent⟩,
      ⟨"1451", some .foreignKey, stillReferenced⟩,
      ⟨"1062", some .unique, duplicateKey⟩]
  | sqlserver =>
    [⟨"515", some .notNull, required⟩, ⟨"207", none, unknownColumn⟩,
      ⟨"547", some .foreignKey, missingParent⟩,
      ⟨"2601", some .unique, duplicateKey⟩,
      ⟨"2627", some .unique, duplicateKey⟩]
  | sqlite =>
    [⟨"1299", some .notNull, required⟩,
      ⟨"787", some .foreignKey, missingParent⟩,
      ⟨"1555", some .unique, duplicateKey⟩,
      ⟨"2067", some .unique, duplicateKey⟩]

def code? (dialect : Dialect) (code : String) : Option VendorCode :=
  dialect.codes.find? fun entry => entry.code == code

end Dialect

end RecordSql
