import RecordSql.Proofs.Exchange.Transcript

/-!
# What exchanges send

Whether all that an exchange sends has some property is told from its steps,
each of which is followed by a continuation for every answer.
-/

namespace RecordSql

variable {α β : Type} {executed asked : Statement → Prop}

/-- However it is answered, an exchange executes statements with one property
alone, and asks queries with another alone. -/
inductive Exchange.Sends (executed asked : Statement → Prop) :
    Exchange α → Prop where
  | done (result : α) : Sends executed asked (.done result)
  | execute {statement : Statement} {next : WriteAnswer → Exchange α} :
      executed statement → (∀ answer, Sends executed asked (next answer)) →
        Sends executed asked (.execute statement next)
  | fetch {statement : Statement} {next : ReadAnswer → Exchange α} :
      asked statement → (∀ answer, Sends executed asked (next answer)) →
        Sends executed asked (.fetch statement next)

namespace Exchange.Sends

theorem bind {exchange : Exchange α} {next : α → Exchange β}
    (first : exchange.Sends executed asked)
    (second : ∀ result, (next result).Sends executed asked) :
    (exchange.bind next).Sends executed asked := by
  induction first with
  | done result => exact second result
  | execute holds _ induction => exact .execute holds induction
  | fetch holds _ induction => exact .fetch holds induction

theorem map {exchange : Exchange α} (sends : exchange.Sends executed asked)
    (change : α → β) : (exchange.map change).Sends executed asked :=
  sends.bind fun _ => .done _

theorem mapOk {exchange : Exchange (Except Failure α)}
    (sends : exchange.Sends executed asked) (change : α → β) :
    (exchange.mapOk change).Sends executed asked :=
  sends.map _

theorem andThen {exchange : Exchange (Except Failure α)}
    {next : α → Exchange (Except Failure β)}
    (first : exchange.Sends executed asked)
    (second : ∀ value, (next value).Sends executed asked) :
    (exchange.andThen next).Sends executed asked := by
  apply first.bind
  intro outcome
  cases outcome with
  | ok value => exact second value
  | error failure => exact .done _

theorem weaken {exchange : Exchange α} {other : Statement → Prop}
    (sends : exchange.Sends executed asked)
    (implies : ∀ statement, executed statement → other statement) :
    exchange.Sends other asked := by
  induction sends with
  | done result => exact .done result
  | execute holds _ induction => exact .execute (implies _ holds) induction
  | fetch holds _ induction => exact .fetch holds induction

variable {exchange : Exchange α} {sendings : List Sending} {result : α}
  {statement : Statement}

theorem of_execute {answer : WriteAnswer}
    (sends : exchange.Sends executed asked)
    (transcript : exchange.Transcript sendings result)
    (sent : .execute statement answer ∈ sendings) : executed statement := by
  induction transcript with
  | done => cases sent
  | execute answer _ induction =>
      cases sends with
      | execute holds rest =>
          cases sent with
          | head => exact holds
          | tail _ later => exact induction (rest answer) later
  | fetch answer _ induction =>
      cases sends with
      | fetch _ rest =>
          cases sent with
          | tail _ later => exact induction (rest answer) later

theorem of_fetch {answer : ReadAnswer} (sends : exchange.Sends executed asked)
    (transcript : exchange.Transcript sendings result)
    (sent : .fetch statement answer ∈ sendings) : asked statement := by
  induction transcript with
  | done => cases sent
  | execute answer _ induction =>
      cases sends with
      | execute _ rest =>
          cases sent with
          | tail _ later => exact induction (rest answer) later
  | fetch answer _ induction =>
      cases sends with
      | fetch holds rest =>
          cases sent with
          | head => exact holds
          | tail _ later => exact induction (rest answer) later

end Exchange.Sends

namespace Database

variable {database : Database} {composed : Except Failure Statement}

theorem sends_execute
    (holds : ∀ statement, composed = .ok statement → executed statement) :
    (database.execute composed).Sends executed asked := by
  cases composed with
  | error failure => exact .done _
  | ok statement => exact .execute (holds statement rfl) fun _ => .done _

theorem sends_fetch
    (holds : ∀ statement, composed = .ok statement → asked statement) :
    (database.fetch composed).Sends executed asked := by
  cases composed with
  | error failure => exact .done _
  | ok statement => exact .fetch (holds statement rfl) fun _ => .done _

end Database

end RecordSql
