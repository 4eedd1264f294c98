import RecordSql.Exchange

/-!
# Transcripts

What is sent and answered when an exchange takes place.  Every answer
is possible at every point, so what holds of all transcripts holds
with every database.
-/

namespace RecordSql

/-- A statement that was sent, with the answer to it. -/
inductive Sending where
  | execute (statement : Statement) (answer : WriteAnswer)
  | fetch (statement : Statement) (answer : ReadAnswer)

namespace Sending

def isExecute : Sending → Bool
  | execute .. => true
  | fetch .. => false

def error? : Sending → Option DriverError
  | execute _ (.error error) | fetch _ (.error error) => some error
  | _ => none

end Sending

/-- An exchange can send and be answered in this way, and then
has this result. -/
inductive Exchange.Transcript {α : Type} :
    Exchange α → List Sending → α → Prop where
  | done {result : α} : Transcript (.done result) [] result
  | execute {statement : Statement} {next : WriteAnswer → Exchange α}
      {result : α} {sendings : List Sending} (answer : WriteAnswer) :
      Transcript (next answer) sendings result →
        Transcript (.execute statement next)
          (.execute statement answer :: sendings) result
  | fetch {statement : Statement} {next : ReadAnswer → Exchange α} {result : α}
      {sendings : List Sending} (answer : ReadAnswer) :
      Transcript (next answer) sendings result →
        Transcript (.fetch statement next)
          (.fetch statement answer :: sendings) result

end RecordSql
