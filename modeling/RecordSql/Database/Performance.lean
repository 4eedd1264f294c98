import RecordSql.Database.Operation
import RecordSql.Exchange.Transcript

/-!
# Operations that took place
-/

namespace RecordSql

/-- An operation as it took place with some database, which may have
answered anything. -/
structure Performance where
  call : DatabaseCall
  sendings : List Sending
  result : Except Failure DatabaseResult
  takesPlace : call.perform.Transcript sendings result

end RecordSql
