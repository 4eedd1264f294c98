import RecordSql.Proofs.Exchange.Transcript
import RecordSql.TableHandle.Reading

/-!
# Reading only

Operations that read send queries and nothing else, however they are answered.
-/

namespace RecordSql

variable {α β : Type}

/-- Nothing is sent that writes. -/
def Exchange.Reads (exchange : Exchange α) : Prop :=
  ∀ ⦃sendings result⦄, exchange.Transcript sendings result →
    ∀ sending ∈ sendings, sending.isExecute = false

theorem Exchange.reads_done (result : α) : (Exchange.done result).Reads := by
  intro sendings _ transcript
  obtain ⟨rfl, _⟩ := transcript_done_iff.mp transcript
  simp

theorem Exchange.Reads.mapOk {exchange : Exchange (Except Failure α)}
    (reads : exchange.Reads) (change : α → β) :
    (exchange.mapOk change).Reads := by
  intro sendings _ transcript
  obtain ⟨_, transcript, _⟩ := transcript_mapOk_iff.mp transcript
  exact reads transcript

theorem Database.reads_fetch {database : Database}
    (composed : Except Failure Statement) :
    (database.fetch composed).Reads := by
  intro sendings _ transcript
  rcases transcript_fetch_iff.mp transcript with
    ⟨_, _, rfl, _⟩ | ⟨_, _, _, rfl, _⟩
  · simp
  · simp [Sending.isExecute]

theorem Database.reads_nextId {database : Database} (sequence : String) :
    (database.nextId sequence).Reads := by
  unfold nextId
  split
  · exact Exchange.reads_done _
  · exact (reads_fetch _).mapOk _

namespace TableHandle

variable {handle : TableHandle}

theorem reads_getOne (keys : Keys) (fields : List String) :
    (handle.getOne keys fields).Reads :=
  (Database.reads_fetch _).mapOk _

theorem reads_contains (keys : Keys) : (handle.contains keys).Reads := by
  unfold contains
  split
  · exact Exchange.reads_done _
  · exact (reads_getOne keys _).mapOk _

theorem reads_containsRecord (record : Record) :
    (handle.containsRecord record).Reads := by
  unfold containsRecord
  split
  · exact Exchange.reads_done _
  · exact reads_contains _

theorem reads_getBytes (keys : Keys) (field : String) :
    (handle.getBytes keys field).Reads := by
  unfold getBytes
  split
  · exact Exchange.reads_done _
  · exact (reads_getOne keys [field]).mapOk _

end TableHandle

end RecordSql
