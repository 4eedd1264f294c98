import RecordSql.TableHandle

/-!
# Reading from tables

Every reading operation sends at most one query, and none when its input is
refused.
-/

namespace RecordSql.TableHandle

/-- The first record that keys select. -/
def getOne (handle : TableHandle) (keys : Keys) (fields : List String) :
    Exchange (Except Failure (Option Record)) :=
  (handle.database.fetch <| Failure.lift <|
    handle.composer.select (some handle.table) handle.name fields (.keys keys)
      (some ⟨1, 0⟩)).mapOk List.head?

def contains (handle : TableHandle) (keys : Keys) :
    Exchange (Except Failure Bool) :=
  if keys.isEmpty then .done (.error .noKeys)
  else (handle.getOne keys (keys.entries.map Prod.fst)).mapOk Option.isSome

/-- Whether the table has a record of the same primary key. -/
def containsRecord (handle : TableHandle) (record : Record) :
    Exchange (Except Failure Bool) :=
  match handle.keysOf record with
  | .error failure => .done (.error failure)
  | .ok keys => handle.contains keys

/-- The records that criteria select, in the order and the window of a
filter. -/
def getMany (handle : TableHandle) (criteria : Criteria)
    (fields : List String) : Exchange (Except Failure (List Record)) :=
  handle.database.fetch <| Failure.lift <|
    handle.composer.select (some handle.table) handle.name fields criteria none

/-- The total in the first record of a count, zero where there is none. -/
def totalOf (records : List Record) : Int64 :=
  ((records.head?.bind fun record => record.get? "total").bind
    Value.scalarInteger?).getD 0

/-- The number of records that criteria select. -/
def count (handle : TableHandle) (criteria : Criteria) :
    Exchange (Except Failure Int64) :=
  (handle.database.fetch <| Failure.lift <|
    handle.composer.count (some handle.table) handle.name criteria).mapOk
    totalOf

/-- The bytes of a field, of a text its UTF-8 bytes. -/
def bytesOf (record : Record) (field : String) : Option (List UInt8) :=
  match record.get? field with
  | some (.binary bytes) => some bytes
  | some (.string text) => some (Text.utf8Bytes text)
  | _ => none

def getBytes (handle : TableHandle) (keys : Keys) (field : String) :
    Exchange (Except Failure (Option (List UInt8))) :=
  match handle.column field with
  | .error failure => .done (.error failure)
  | .ok _ =>
    (handle.getOne keys [field]).mapOk fun found => found.bind fun record =>
      bytesOf record field

end RecordSql.TableHandle
