import RecordSql.Proofs.Database.Restriction
import RecordSql.Proofs.TableHandle.Definite

/-!
# Nulls as they are given

Nothing that is sent compares with a null or holds a double without a finite
number.  A null is sent only where a null is assigned.
-/

namespace RecordSql

namespace Database

variable {database : Database} {executed : Statement → Prop}

private theorem definite_of_nextId? {dialect : Dialect} {sequence : String}
    {statement : Statement}
    (asked : dialect.nextId? sequence = some statement) :
    statement.Definite := by
  unfold Dialect.nextId? at asked
  split at asked
  · cases asked
    simp [Param.definite_text]
  · cases asked
    simp
  · cases asked

theorem sends_nextId (sequence : String) :
    (database.nextId sequence).Sends executed Statement.Definite := by
  unfold nextId
  split
  · exact .done _
  · next statement asked =>
      apply Exchange.Sends.mapOk
      apply sends_fetch
      rintro _ ⟨⟩
      exact definite_of_nextId? asked

theorem sends_query (text : String) (criteria : Criteria) :
    (database.query text criteria).Sends executed Statement.Definite := by
  apply sends_fetch
  intro statement lifted
  exact (Composer.surrounds_extendQuery text).definite
    (Failure.lift_eq_ok_iff.mp lifted)

end Database

/-- Composed statements have a null only for a null that is assigned, and no
double without a finite number. -/
structure Composer.NullsAsGiven (composer : Composer) : Prop where
  null_iff : ∀ value column, composer.formats.bind value column = .ok .null ↔
    value = .null
  finite : ∀ value column param,
    composer.formats.bind value column = .ok param → param.IsFinite
  predicates : ∀ table criteria predicate,
    composer.predicate table criteria = .ok predicate → predicate.Definite
  keys : ∀ table keys predicate,
    composer.keys table keys = .ok predicate → composer.Conjoins keys predicate
  ofInsert : ∀ metadata table record ignore statement,
    composer.insert metadata table record ignore = .ok statement →
      List.Forall₂ Assignment.Carries
        (metadata.assignments record) statement.params
  ofUpdate : ∀ table assignments predicate statement,
    composer.update table assignments predicate = .ok statement →
      ∃ set, statement.params = set ++ predicate.params ∧
        List.Forall₂ Assignment.Carries assignments set

private theorem Composer.nullsAsGiven (composer : Composer) :
    composer.NullsAsGiven where
  null_iff _ _ := Formats.bind_eq_null_iff
  finite _ _ _ := Formats.isFinite_of_bind
  predicates _ _ _ := definite_of_predicate
  keys _ _ _ := conjoins_of_keys
  ofInsert _ _ _ _ _ := carries_of_insert
  ofUpdate _ _ _ _ := carries_of_update

namespace Performance

/-- What an operation executed has nulls only where it assigns them, and what it
asked has none. -/
structure NullsAsGiven (performance : Performance) : Prop where
  executed : ∀ statement answer,
    .execute statement answer ∈ performance.sendings →
      ∃ handle operation assignments, performance.Is handle operation ∧
        handle.Assigns operation assignments ∧ statement.Assigns assignments
  asked : ∀ statement answer, .fetch statement answer ∈ performance.sendings →
    statement.Definite

private theorem sends_perform (call : DatabaseCall) :
    call.perform.Sends
      (fun statement => ∃ (handle : TableHandle) (operation : TableOperation)
          (assignments : List Assignment),
        call = ⟨handle.database, .table handle.table operation⟩ ∧
          handle.Assigns operation assignments ∧ statement.Assigns assignments)
      Statement.Definite := by
  obtain ⟨database, operation⟩ := call
  cases operation with
  | query text criteria => exact (Database.sends_query text criteria).mapOk _
  | nextId sequence => exact (Database.sends_nextId sequence).mapOk _
  | table table operation =>
      apply Exchange.Sends.mapOk
      apply (TableHandle.sends_perform operation).weaken
      rintro statement ⟨assignments, ofOperation, assigns⟩
      exact ⟨⟨database, table⟩, operation, assignments, rfl,
        ofOperation, assigns⟩

/-- Nulls are sent as they are given, whatever is composed, and whatever is sent
by any operation with any answers. -/
theorem nulls_as_given :
    (∀ composer : Composer, composer.NullsAsGiven) ∧
      ∀ performance : Performance, performance.NullsAsGiven := by
  refine ⟨Composer.nullsAsGiven, ?_⟩
  intro performance
  have sends := sends_perform performance.call
  constructor
  case executed =>
    intro statement answer sent
    exact sends.of_execute performance.takesPlace sent
  case asked =>
    intro statement answer sent
    exact sends.of_fetch performance.takesPlace sent

end Performance

end RecordSql
