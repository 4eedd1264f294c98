import RecordSql.Database
import RecordSql.Exchange.Transcript

/-!
# Transcripts of composed exchanges

For each way to compose exchanges, the transcripts of the whole are those of its
parts one after another.
-/

namespace RecordSql

namespace Exchange

variable {α β : Type} {sendings : List Sending}

@[simp] theorem transcript_done_iff {given result : α} :
    (Exchange.done given).Transcript sendings result ↔
      sendings = [] ∧ result = given := by
  constructor
  · intro transcript
    cases transcript
    exact ⟨rfl, rfl⟩
  · rintro ⟨rfl, rfl⟩
    exact .done

theorem transcript_bind_iff {exchange : Exchange α} {next : α → Exchange β}
    {result : β} : (exchange.bind next).Transcript sendings result ↔
      ∃ first second middle, sendings = first ++ second ∧
        exchange.Transcript first middle ∧
        (next middle).Transcript second result := by
  constructor
  · intro transcript
    induction exchange generalizing sendings with
    | done middle => exact ⟨[], sendings, middle, rfl, .done, transcript⟩
    | execute statement rest induction =>
        cases transcript with
        | execute answer transcript =>
            obtain ⟨first, second, middle, rfl, before, after⟩ :=
              induction answer transcript
            exact ⟨_ :: first, second, middle, rfl,
              .execute answer before, after⟩
    | fetch statement rest induction =>
        cases transcript with
        | fetch answer transcript =>
            obtain ⟨first, second, middle, rfl, before, after⟩ :=
              induction answer transcript
            exact ⟨_ :: first, second, middle, rfl, .fetch answer before, after⟩
  · rintro ⟨first, second, middle, rfl, before, after⟩
    induction before with
    | done => exact after
    | execute answer _ induction => exact .execute answer (induction after)
    | fetch answer _ induction => exact .fetch answer (induction after)

theorem transcript_map_iff {exchange : Exchange α} {change : α → β}
    {result : β} : (exchange.map change).Transcript sendings result ↔
      ∃ middle, exchange.Transcript sendings middle ∧
        result = change middle := by
  rw [map, transcript_bind_iff]
  constructor
  · rintro ⟨first, second, middle, rfl, before, after⟩
    obtain ⟨rfl, rfl⟩ := transcript_done_iff.mp after
    exact ⟨middle, by rwa [List.append_nil], rfl⟩
  · rintro ⟨middle, before, rfl⟩
    exact ⟨sendings, [], middle, (List.append_nil _).symm, before, .done⟩

theorem transcript_mapOk_iff {exchange : Exchange (Except Failure α)}
    {change : α → β} {result : Except Failure β} :
    (exchange.mapOk change).Transcript sendings result ↔
      ∃ middle, exchange.Transcript sendings middle ∧
        result = middle.map change :=
  transcript_map_iff

theorem mapOk_mapOk {γ : Type} (exchange : Exchange (Except Failure α))
    (first : α → β) (second : β → γ) :
    (exchange.mapOk first).mapOk second = exchange.mapOk fun value =>
      second (first value) := by
  have mapped : ∀ outcome : Except Failure α,
      (outcome.map first).map second = outcome.map fun value =>
        second (first value) := by
    intro outcome
    cases outcome <;> rfl
  simp only [mapOk, map]
  induction exchange with
  | done outcome => exact congrArg done (mapped outcome)
  | execute statement rest induction =>
      exact congrArg (execute statement) (funext induction)
  | fetch statement rest induction =>
      exact congrArg (fetch statement) (funext induction)

/-- After a failure nothing more is sent. -/
theorem transcript_andThen_iff {exchange : Exchange (Except Failure α)}
    {next : α → Exchange (Except Failure β)} {result : Except Failure β} :
    (exchange.andThen next).Transcript sendings result ↔
      (∃ failure, exchange.Transcript sendings (.error failure) ∧
          result = .error failure) ∨
        ∃ first second middle, sendings = first ++ second ∧
          exchange.Transcript first (.ok middle) ∧
          (next middle).Transcript second result := by
  rw [andThen, transcript_bind_iff]
  constructor
  · rintro ⟨first, second, outcome, rfl, before, after⟩
    cases outcome with
    | ok middle => exact .inr ⟨first, second, middle, rfl, before, after⟩
    | error failure =>
        obtain ⟨rfl, rfl⟩ := transcript_done_iff.mp after
        exact .inl ⟨failure, by rwa [List.append_nil], rfl⟩
  · rintro (⟨failure, before, rfl⟩ |
      ⟨first, second, middle, rfl, before, after⟩)
    · exact ⟨sendings, [], .error failure, (List.append_nil _).symm,
        before, .done⟩
    · exact ⟨first, second, .ok middle, rfl, before, after⟩

end Exchange

theorem Failure.lift_eq_ok_iff {α : Type} {outcome : Except Fault α}
    {value : α} : Failure.lift outcome = .ok value ↔ outcome = .ok value := by
  constructor
  · intro lifted
    cases outcome with
    | error fault => cases lifted
    | ok given =>
        cases lifted
        rfl
  · rintro rfl
    rfl

namespace Database

variable {database : Database} {composed : Except Failure Statement}
  {sendings : List Sending}

theorem transcript_execute_iff {result : Except Failure Nat} :
    (database.execute composed).Transcript sendings result ↔
      (∃ failure, composed = .error failure ∧ sendings = [] ∧
          result = .error failure) ∨
        ∃ statement answer, composed = .ok statement ∧
          sendings = [.execute statement answer] ∧
          result = answer.mapError database.failure := by
  constructor
  · intro transcript
    cases composed with
    | error failure =>
        obtain ⟨rfl, rfl⟩ := Exchange.transcript_done_iff.mp transcript
        exact .inl ⟨failure, rfl, rfl, rfl⟩
    | ok statement =>
        cases transcript with
        | execute answer rest =>
            obtain ⟨rfl, rfl⟩ := Exchange.transcript_done_iff.mp rest
            exact .inr ⟨statement, answer, rfl, rfl, rfl⟩
  · rintro (⟨failure, rfl, rfl, rfl⟩ | ⟨statement, answer, rfl, rfl, rfl⟩)
    · exact .done
    · exact .execute answer .done

/-- A statement that was sent to be executed is the one that was composed. -/
theorem composed_of_sent {result : Except Failure Nat} {statement : Statement}
    {answer : WriteAnswer}
    (transcript : (database.execute composed).Transcript sendings result)
    (sent : .execute statement answer ∈ sendings) :
    composed = .ok statement ∧ sendings = [.execute statement answer] := by
  rcases transcript_execute_iff.mp transcript with
    ⟨_, _, rfl, _⟩ | ⟨written, _, composed, rfl, _⟩
  · cases sent
  · obtain ⟨rfl, rfl⟩ := Sending.execute.inj (List.mem_singleton.mp sent)
    exact ⟨composed, rfl⟩

theorem transcript_fetch_iff {result : Except Failure (List Record)} :
    (database.fetch composed).Transcript sendings result ↔
      (∃ failure, composed = .error failure ∧ sendings = [] ∧
          result = .error failure) ∨
        ∃ statement answer, composed = .ok statement ∧
          sendings = [.fetch statement answer] ∧
          result = (answer.mapError database.failure).map fun rows =>
            rows.map database.record := by
  constructor
  · intro transcript
    cases composed with
    | error failure =>
        obtain ⟨rfl, rfl⟩ := Exchange.transcript_done_iff.mp transcript
        exact .inl ⟨failure, rfl, rfl, rfl⟩
    | ok statement =>
        cases transcript with
        | fetch answer rest =>
            obtain ⟨rfl, rfl⟩ := Exchange.transcript_done_iff.mp rest
            exact .inr ⟨statement, answer, rfl, rfl, rfl⟩
  · rintro (⟨failure, rfl, rfl, rfl⟩ | ⟨statement, answer, rfl, rfl, rfl⟩)
    · exact .done
    · exact .fetch answer .done

end Database

end RecordSql
