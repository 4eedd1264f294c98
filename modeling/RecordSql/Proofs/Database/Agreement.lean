import RecordSql.Database.Operation
import RecordSql.Proofs.Exchange.Agreement
import RecordSql.Proofs.TableHandle.Ending

/-!
# Operations of two databases

Two databases that compose related statements and report related failures
perform every operation in step.  What this takes is said of composers and
databases once, so that a comparison of whole operations comes down to the
statements that are composed.
-/

namespace RecordSql

namespace Comparison

/-- Two composers compose related statements and refuse the same input for
the same reason. -/
structure Composers (comparison : Comparison)
    (first second : Composer) : Prop where
  predicate : ∀ metadata criteria,
    Outcome.Agree Eq (fun left right =>
      comparison.statements left right ∧ left.isEmpty = right.isEmpty)
      (first.predicate metadata criteria) (second.predicate metadata criteria)
  select : ∀ metadata table fields criteria page,
    Outcome.Agree Eq comparison.statements
      (first.select metadata table fields criteria page)
      (second.select metadata table fields criteria page)
  extendQuery : ∀ metadata query criteria,
    Outcome.Agree Eq comparison.statements
      (first.extendQuery metadata query criteria)
      (second.extendQuery metadata query criteria)
  count : ∀ metadata table criteria,
    Outcome.Agree Eq comparison.statements (first.count metadata table criteria)
      (second.count metadata table criteria)
  insert : ∀ metadata table record ignore,
    Outcome.Agree Eq comparison.statements
      (first.insert metadata table record ignore)
      (second.insert metadata table record ignore)
  update : ∀ table assignments left right, comparison.statements left right →
    left.isEmpty = right.isEmpty →
      Outcome.Agree Eq comparison.statements
        (first.update table assignments left)
        (second.update table assignments right)
  adjust : ∀ table field adjustment quantity left right,
    comparison.statements left right →
      left.isEmpty = right.isEmpty →
        comparison.statements
          (first.adjust table field adjustment quantity left)
          (second.adjust table field adjustment quantity right)
  delete : ∀ table left right, comparison.statements left right →
    left.isEmpty = right.isEmpty →
      comparison.statements (first.delete table left)
        (second.delete table right)

/-- Two databases compose related statements and report related failures. -/
structure Databases (comparison : Comparison)
    (first second : Database) : Prop where
  composers : comparison.Composers first.composer second.composer
  formats : first.formats = second.formats
  refused : ∀ failure, failure.isReported = false →
    comparison.failures failure failure
  reported : ∀ error, comparison.errors error →
    comparison.failures (first.failure error) (second.failure error)
  /-- Inserts pass over the same failures. -/
  passedOver : ∀ table left right, comparison.failures left right →
    comparison.SameResult (TableHandle.passOver ⟨first, table⟩ (.error left))
      (TableHandle.passOver ⟨second, table⟩ (.error right))

variable {comparison : Comparison} {first second : Database}

/-- A composer compares with itself. -/
theorem Composers.refl
    (related : ∀ statement, comparison.statements statement statement)
    (same : ∀ left right, comparison.statements left right → left = right)
    (composer : Composer) : comparison.Composers composer composer := by
  have outcome : ∀ composed : Except Fault Statement,
      Outcome.Agree Eq comparison.statements composed composed :=
    Outcome.Agree.refl (fun _ => rfl) related
  constructor
  case predicate =>
    intro metadata criteria
    exact .refl (fun _ => rfl) (fun statement => ⟨related statement, rfl⟩) _
  case select => exact fun _ _ _ _ _ => outcome _
  case extendQuery => exact fun _ _ _ => outcome _
  case count => exact fun _ _ _ => outcome _
  case insert => exact fun _ _ _ _ => outcome _
  case update =>
    intro table assignments left right equal _
    rw [same left right equal]
    exact outcome _
  case adjust =>
    intro table field adjustment quantity left right equal _
    rw [same left right equal]
    exact related _
  case delete =>
    intro table left right equal _
    rw [same left right equal]
    exact related _

namespace Databases

variable (databases : comparison.Databases first second)

include databases

/-- Input that both composers refuse is refused as the same failure. -/
theorem lift {α β : Type} {Values : α → β → Prop} {left : Except Fault α}
    {right : Except Fault β} (agree : Outcome.Agree Eq Values left right) :
    Outcome.Agree comparison.failures Values (Failure.lift left)
      (Failure.lift right) := by
  apply agree.mapError
  rintro fault _ rfl
  exact databases.refused _
    (Failure.refusing_lift (.error fault : Except Fault α) _ rfl)

theorem refuse {α β : Type} {Values : α → β → Prop} {failure : Failure}
    (unreported : failure.isReported = false) :
    Outcome.Agree comparison.failures Values (.error failure : Except Failure α)
      (.error failure : Except Failure β) :=
  .error (databases.refused failure unreported)

/-- An outcome that refuses input, and that both have. -/
theorem same {α : Type} {outcome : Except Failure α}
    (refusing : Failure.Refusing outcome) :
    comparison.SameResult outcome outcome := by
  cases outcome with
  | ok value => exact .ok rfl
  | error failure => exact databases.refuse (refusing failure rfl)

variable {left right : Except Failure Statement}

theorem execute
    (composed :
      Outcome.Agree comparison.failures comparison.statements left right) :
    Exchange.Agree comparison comparison.SameResult (first.execute left)
      (second.execute right) := by
  cases composed with
  | error related => exact .done (.error related)
  | ok related =>
      refine .execute related fun answer allowed => .done ?_
      cases answer with
      | ok rows => exact .ok rfl
      | error error =>
          exact .error (databases.reported error (allowed error rfl))

theorem fetch
    (composed :
      Outcome.Agree comparison.failures comparison.statements left right) :
    Exchange.Agree comparison comparison.SameResult (first.fetch left)
      (second.fetch right) := by
  cases composed with
  | error related => exact .done (.error related)
  | ok related =>
      refine .fetch related fun answer allowed => .done ?_
      cases answer with
      | ok rows =>
          have sameRecord : first.record = second.record := by
            funext row
            rw [Database.record, Database.record, databases.formats]
          exact .ok (congrArg rows.map sameRecord)
      | error error =>
          exact .error (databases.reported error (allowed error rfl))

theorem query (text : String) (criteria : Criteria) :
    Exchange.Agree comparison comparison.SameResult (first.query text criteria)
      (second.query text criteria) :=
  databases.fetch
    (databases.lift (databases.composers.extendQuery none text criteria))

variable (table : Table)

theorem restriction (criteria : Criteria) :
    Outcome.Agree comparison.failures
      (fun left right =>
        comparison.statements left right ∧ left.isEmpty = right.isEmpty)
      (TableHandle.restriction ⟨first, table⟩ criteria)
      (TableHandle.restriction ⟨second, table⟩ criteria) := by
  apply (databases.lift
    (databases.composers.predicate (some table) criteria)).bind
  rintro left right ⟨related, sameEmptiness⟩
  rw [sameEmptiness]
  split
  · exact databases.refuse rfl
  · exact .ok ⟨related, sameEmptiness⟩

theorem keyPredicate (keys : Keys) :
    Outcome.Agree comparison.failures
      (fun left right =>
        comparison.statements left right ∧ left.isEmpty = right.isEmpty)
      (TableHandle.keyPredicate ⟨first, table⟩ keys)
      (TableHandle.keyPredicate ⟨second, table⟩ keys) :=
  databases.lift (databases.composers.predicate (some table) (.keys keys))

theorem getOne (keys : Keys) (fields : List String) :
    Exchange.Agree comparison comparison.SameResult
      (TableHandle.getOne ⟨first, table⟩ keys fields)
      (TableHandle.getOne ⟨second, table⟩ keys fields) :=
  (databases.fetch
    (databases.lift (databases.composers.select _ _ _ _ _))).mapOk _

theorem contains (keys : Keys) :
    Exchange.Agree comparison comparison.SameResult
      (TableHandle.contains ⟨first, table⟩ keys)
      (TableHandle.contains ⟨second, table⟩ keys) := by
  unfold TableHandle.contains
  split
  · exact .done (databases.refuse rfl)
  · exact (databases.getOne table keys _).mapOk _

theorem containsRecord (record : Record) :
    Exchange.Agree comparison comparison.SameResult
      (TableHandle.containsRecord ⟨first, table⟩ record)
      (TableHandle.containsRecord ⟨second, table⟩ record) := by
  have sameKeys : TableHandle.keysOf ⟨first, table⟩ record =
      TableHandle.keysOf ⟨second, table⟩ record := rfl
  unfold TableHandle.containsRecord
  rw [← sameKeys]
  split
  · next failure refused =>
      exact .done
        (databases.refuse (TableHandle.refusing_keysOf record failure refused))
  · exact databases.contains table _

theorem getMany (criteria : Criteria) (fields : List String) :
    Exchange.Agree comparison comparison.SameResult
      (TableHandle.getMany ⟨first, table⟩ criteria fields)
      (TableHandle.getMany ⟨second, table⟩ criteria fields) :=
  databases.fetch (databases.lift (databases.composers.select _ _ _ _ _))

theorem count (criteria : Criteria) :
    Exchange.Agree comparison comparison.SameResult
      (TableHandle.count ⟨first, table⟩ criteria)
      (TableHandle.count ⟨second, table⟩ criteria) :=
  (databases.fetch (databases.lift (databases.composers.count _ _ _))).mapOk _

theorem getBytes (keys : Keys) (field : String) :
    Exchange.Agree comparison comparison.SameResult
      (TableHandle.getBytes ⟨first, table⟩ keys field)
      (TableHandle.getBytes ⟨second, table⟩ keys field) := by
  have sameColumn : TableHandle.column ⟨first, table⟩ field =
      TableHandle.column ⟨second, table⟩ field := rfl
  unfold TableHandle.getBytes
  rw [← sameColumn]
  split
  · next failure refused =>
      exact .done
        (databases.refuse (TableHandle.refusing_column field failure refused))
  · exact (databases.getOne table keys [field]).mapOk _

theorem insert (record : Record) (ignore : Bool) :
    Exchange.Agree comparison comparison.SameResult
      (TableHandle.insert ⟨first, table⟩ record ignore)
      (TableHandle.insert ⟨second, table⟩ record ignore) := by
  apply (databases.execute
    (databases.lift (databases.composers.insert _ _ _ _))).map
  intro left right same
  cases ignore with
  | false => exact same
  | true =>
      cases same with
      | ok equal =>
          cases equal
          exact .ok rfl
      | error related => exact databases.passedOver table _ _ related

theorem updatePredicate (record : Record) (filter : Option Filter) :
    Outcome.Agree comparison.failures
      (fun left right =>
        comparison.statements left right ∧ left.isEmpty = right.isEmpty)
      (TableHandle.updatePredicate ⟨first, table⟩ record filter)
      (TableHandle.updatePredicate ⟨second, table⟩ record filter) := by
  cases filter with
  | none => exact databases.keyPredicate table _
  | some filter => exact databases.restriction table _

theorem updateWhere (assignments : List Assignment)
    (composed : Outcome.Agree comparison.failures
      (fun left right =>
        comparison.statements left right ∧ left.isEmpty = right.isEmpty) left
      right) :
    Exchange.Agree comparison comparison.SameResult
      (TableHandle.updateWhere ⟨first, table⟩ assignments left)
      (TableHandle.updateWhere ⟨second, table⟩ assignments right) := by
  apply databases.execute
  apply composed.bind
  rintro left right ⟨related, sameEmptiness⟩
  exact databases.lift
    (databases.composers.update _ _ _ _ related sameEmptiness)

theorem update (record : Record) (filter : Option Filter) :
    Exchange.Agree comparison comparison.SameResult
      (TableHandle.update ⟨first, table⟩ record filter)
      (TableHandle.update ⟨second, table⟩ record filter) := by
  have sameChanges : TableHandle.changes ⟨first, table⟩ record =
      TableHandle.changes ⟨second, table⟩ record := rfl
  unfold TableHandle.update
  rw [← sameChanges]
  split
  · exact .done (.ok rfl)
  · exact databases.updateWhere table _
      (databases.updatePredicate table record filter)

theorem upsert (record : Record) :
    Exchange.Agree comparison comparison.SameResult
      (TableHandle.upsert ⟨first, table⟩ record)
      (TableHandle.upsert ⟨second, table⟩ record) := by
  apply (databases.containsRecord table record).andThen
  intro found
  split
  · exact databases.update table record none
  · exact databases.insert table record false

theorem delete (criteria : Criteria) :
    Exchange.Agree comparison comparison.SameResult
      (TableHandle.delete ⟨first, table⟩ criteria)
      (TableHandle.delete ⟨second, table⟩ criteria) := by
  apply databases.execute
  apply (databases.restriction table criteria).bind
  rintro left right ⟨related, sameEmptiness⟩
  exact .ok (databases.composers.delete _ _ _ related sameEmptiness)

theorem updateField (field : String) (value : Value) (criteria : Criteria) :
    Exchange.Agree comparison comparison.SameResult
      (TableHandle.updateField ⟨first, table⟩ field value criteria)
      (TableHandle.updateField ⟨second, table⟩ field value criteria) := by
  have sameColumn : TableHandle.column ⟨first, table⟩ field =
      TableHandle.column ⟨second, table⟩ field := rfl
  unfold TableHandle.updateField
  rw [← sameColumn]
  split
  · next failure refused =>
      exact .done
        (databases.refuse (TableHandle.refusing_column field failure refused))
  · exact databases.updateWhere table _ (databases.restriction table criteria)

theorem adjust (adjustment : Adjustment) (field : String) (keys : Keys)
    (quantity : Value) :
    Exchange.Agree comparison comparison.SameResult
      (TableHandle.adjust ⟨first, table⟩ adjustment field keys quantity)
      (TableHandle.adjust ⟨second, table⟩ adjustment field keys quantity) := by
  apply databases.execute
  apply (databases.same (TableHandle.refusing_column field)).bind
  rintro column _ rfl
  apply (databases.same
    (TableHandle.refusing_quantityParam field quantity)).bind
  rintro bound _ rfl
  apply (databases.keyPredicate table keys).bind
  rintro left right ⟨related, sameEmptiness⟩
  exact .ok (databases.composers.adjust _ _ _ _ _ _ related sameEmptiness)

/-- Every operation of a table takes place in step with the same operation of
the other database. -/
theorem performTable (operation : TableOperation) :
    Exchange.Agree comparison comparison.SameResult
      (TableHandle.perform ⟨first, table⟩ operation)
      (TableHandle.perform ⟨second, table⟩ operation) := by
  cases operation with
  | contains keys => exact (databases.contains table keys).mapOk _
  | containsRecord record =>
      exact (databases.containsRecord table record).mapOk _
  | getOne keys fields => exact (databases.getOne table keys fields).mapOk _
  | getMany criteria fields =>
      exact (databases.getMany table criteria fields).mapOk _
  | count criteria => exact (databases.count table criteria).mapOk _
  | getBytes keys field => exact (databases.getBytes table keys field).mapOk _
  | insert record ignore => exact (databases.insert table record ignore).mapOk _
  | update record filter => exact (databases.update table record filter).mapOk _
  | upsert record => exact (databases.upsert table record).mapOk _
  | delete criteria => exact (databases.delete table criteria).mapOk _
  | updateField field value criteria =>
      exact (databases.updateField table field value criteria).mapOk _
  | adjust adjustment field keys quantity =>
      exact (databases.adjust table adjustment field keys quantity).mapOk _

/-- Apart from the next ids of sequences, everything that can be asked of a
database takes place in step. -/
theorem perform {operation : DatabaseOperation}
    (noSequence : ∀ sequence, operation ≠ .nextId sequence) :
    Exchange.Agree comparison comparison.SameResult (first.perform operation)
      (second.perform operation) := by
  cases operation with
  | table table operation =>
      exact (databases.performTable table operation).mapOk _
  | query text criteria => exact (databases.query text criteria).mapOk _
  | nextId sequence => exact absurd rfl (noSequence sequence)

/-- Sequences are asked for in the words of the dialect. -/
theorem nextId
    (related : ∀ statement, comparison.statements statement statement)
    (dialect : first.dialect = second.dialect) (sequence : String) :
    Exchange.Agree comparison comparison.SameResult (first.nextId sequence)
      (second.nextId sequence) := by
  unfold Database.nextId
  rw [dialect]
  split
  · exact .done (.ok rfl)
  · exact (databases.fetch (.ok (related _))).mapOk _

end Databases

end Comparison

end RecordSql
