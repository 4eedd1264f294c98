import RecordSql.TableHandle.Writing

/-!
# Table operations as data

The operations of a table with their arguments and the results that they have,
so that statements about all of them can be made at once.
-/

namespace RecordSql

/-- An operation of a table that may reach the database. -/
inductive TableOperation where
  | contains (keys : Keys)
  | containsRecord (record : Record)
  | getOne (keys : Keys) (fields : List String)
  | getMany (criteria : Criteria) (fields : List String)
  | count (criteria : Criteria)
  | getBytes (keys : Keys) (field : String)
  | insert (record : Record) (ignore : Bool)
  | update (record : Record) (filter : Option Filter)
  | upsert (record : Record)
  | delete (criteria : Criteria)
  | updateField (field : String) (value : Value) (criteria : Criteria)
  | adjust (adjustment : Adjustment) (field : String) (keys : Keys)
      (quantity : Value)
  deriving DecidableEq

inductive TableResult where
  | found (answer : Bool)
  | record (record : Option Record)
  | records (records : List Record)
  | total (count : Int64)
  | bytes (bytes : Option (List UInt8))
  | affected (rows : Nat)
  deriving DecidableEq

def TableHandle.perform (handle : TableHandle) :
    TableOperation → Exchange (Except Failure TableResult)
  | .contains keys => (handle.contains keys).mapOk .found
  | .containsRecord record => (handle.containsRecord record).mapOk .found
  | .getOne keys fields => (handle.getOne keys fields).mapOk .record
  | .getMany criteria fields => (handle.getMany criteria fields).mapOk .records
  | .count criteria => (handle.count criteria).mapOk .total
  | .getBytes keys field => (handle.getBytes keys field).mapOk .bytes
  | .insert record ignore => (handle.insert record ignore).mapOk .affected
  | .update record filter => (handle.update record filter).mapOk .affected
  | .upsert record => (handle.upsert record).mapOk .affected
  | .delete criteria => (handle.delete criteria).mapOk .affected
  | .updateField field value criteria =>
      (handle.updateField field value criteria).mapOk .affected
  | .adjust adjustment field keys quantity =>
    (handle.adjust adjustment field keys quantity).mapOk .affected

end RecordSql
