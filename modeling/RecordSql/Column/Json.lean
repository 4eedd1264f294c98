import RecordSql.Column
import RecordSql.Json.Shape

/-!
# Tables in JSON

The form in which the metadata of a table is reported.
-/

namespace RecordSql

def Column.toJson (column : Column) : Json :=
  .object [("name", .string column.name),
    ("database_type", .string column.base),
    ("semantic", .string column.kind.name), ("size", .integer column.size),
    ("required", .boolean column.required),
    ("primary_key", .boolean column.primaryKey),
    ("default", (column.default.map Json.string).getD .null)]

def Table.toJson (table : Table) : Json :=
  .object [("table", .string table.name),
    ("columns", .array (table.columns.map Column.toJson))]

end RecordSql
