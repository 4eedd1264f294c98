import RecordSql.Proofs.Keys
import RecordSql.Proofs.Predicate.Form
import RecordSql.Proofs.Statement.Literal

/-!
# Predicates of some of the keys

Keys and what is left of them when null ones are dropped address rows in
different ways: the parameters are the same, but each dropped key takes
its conjunct with it.
-/

namespace RecordSql.Composer

variable {composer : Composer} {table : Option Table} {dialect : Dialect}
  {keep : String → Bool}

private theorem params_keyClause_of_null {name : String} {value : Value}
    {clause : Statement} (null : value.isNull = true)
    (composed : composer.keyClause table name value = .ok clause) :
    clause.params = [] := by
  cases keyClause_eq_ok_iff.mp composed with
  | null => simp
  | equal present => exact absurd (Value.isNull_iff.mp null) present

/-- The length of the text of clauses with AND before each of them. -/
private def conjunctsLength (dialect : Dialect)
    (clauses : List Statement) : Nat :=
  ((Statement.eachAfter " AND " clauses).literal dialect).length

private theorem conjunctsLength_cons (clause : Statement)
    (rest : List Statement) : conjunctsLength dialect (clause :: rest) =
      5 + (clause.literal dialect).length + conjunctsLength dialect rest := by
  simp only [conjunctsLength, Statement.eachAfter, Statement.literal_append,
    Statement.literal_ofSql, String.length_append]
  rfl

/-- Dropped null keys have no parameters, but their clauses have text. -/
private theorem clauses_only (dialect : Dialect)
    {entries : List (String × Value)} {clauses kept : List Statement}
    (composed :
      List.Forall₂ (fun entry clause =>
        composer.keyClause table entry.1 entry.2 = .ok clause) entries clauses)
    (keptComposed : List.Forall₂
      (fun entry clause =>
        composer.keyClause table entry.1 entry.2 = .ok clause)
      (entries.filter fun entry => keep entry.1) kept)
    (dropped : ∀ entry ∈ entries, keep entry.1 = false →
      entry.2.isNull = true) :
    kept.flatMap Statement.params = clauses.flatMap Statement.params ∧
      conjunctsLength dialect kept ≤ conjunctsLength dialect clauses ∧
        ((∃ entry ∈ entries, keep entry.1 = false) →
          conjunctsLength dialect kept < conjunctsLength dialect clauses) := by
  induction composed generalizing kept with
  | nil =>
      cases keptComposed
      exact ⟨rfl, Nat.le_refl _, fun some => by simp at some⟩
  | @cons entry clause entries clauses clauseOk _ induction =>
      have droppedRest := fun other member =>
        dropped other (List.mem_cons_of_mem entry member)
      cases keepEntry : keep entry.1 with
      | true =>
          rw [List.filter_cons, if_pos keepEntry] at keptComposed
          cases keptComposed with
          | cons keptOk keptRestOk =>
              cases clauseOk.symm.trans keptOk
              obtain ⟨sameParams, atMost, shorter⟩ :=
                induction keptRestOk droppedRest
              refine ⟨by simp [sameParams], ?_, ?_⟩
              · rw [conjunctsLength_cons, conjunctsLength_cons]
                omega
              · rintro ⟨other, member, absent⟩
                rcases List.mem_cons.mp member with rfl | inRest
                · rw [keepEntry] at absent
                  cases absent
                · have less := shorter ⟨other, inRest, absent⟩
                  rw [conjunctsLength_cons, conjunctsLength_cons]
                  omega
      | false =>
          rw [List.filter_cons, if_neg (by simp [keepEntry])] at keptComposed
          have noParams := params_keyClause_of_null
            (dropped entry List.mem_cons_self keepEntry) clauseOk
          obtain ⟨sameParams, atMost, _⟩ := induction keptComposed droppedRest
          rw [conjunctsLength_cons]
          refine ⟨by simp [noParams, sameParams], ?_, fun _ => ?_⟩
          · omega
          · omega

/-- Dropping null keys leaves the parameters, and leaves the text if
none is dropped. -/
theorem keys_only (dialect : Dialect) {keys : Keys} {whole part : Statement}
    (composed : composer.keys table keys = .ok whole)
    (partComposed : composer.keys table (keys.only keep) = .ok part)
    (dropped : ∀ entry ∈ keys.entries, keep entry.1 = false →
      entry.2.isNull = true) : part.params = whole.params ∧
      (part.literal dialect = whole.literal dialect ↔
        ∀ entry ∈ keys.entries, keep entry.1 = true) := by
  obtain ⟨clauses, present, rfl, clausesOk⟩ := clauses_of_keys composed
  obtain ⟨kept, keptPresent, rfl, keptOk⟩ := clauses_of_keys partComposed
  obtain ⟨sameParams, _, shorter⟩ :=
    clauses_only dialect clausesOk keptOk dropped
  rw [Statement.params_join, Statement.params_join]
  refine ⟨sameParams, ?_, ?_⟩
  · intro same
    by_contra some
    have absent : ∃ entry ∈ keys.entries, keep entry.1 = false := by
      simpa using some
    have less := shorter absent
    rw [conjunctsLength, conjunctsLength,
      Statement.literal_eachAfter " AND " present,
      Statement.literal_eachAfter " AND " keptPresent, same] at less
    exact Nat.lt_irrefl _ less
  · intro every
    have whole : keys.only keep = keys :=
      Keys.ext (List.filter_eq_self.mpr every)
    rw [whole, composed] at partComposed
    rw [Except.ok.inj partComposed]

/-- Keys can be composed if there are some, and each of them has a name
and can be bound. -/
theorem exists_keys_eq_ok_iff {keys : Keys} :
    (∃ statement, composer.keys table keys = .ok statement) ↔
      keys.isEmpty = false ∧
        ∀ entry ∈ keys.entries, Text.isAllBlank entry.1 = false ∧
          ∃ clause, composer.keyClause table entry.1 entry.2 = .ok clause := by
  have nonempty : keys.isEmpty = false ↔ keys.entries ≠ [] :=
    List.isEmpty_eq_false_iff
  rw [nonempty]
  constructor
  · rintro ⟨statement, composed⟩
    obtain ⟨present, named, clauses, clausesOk, _⟩ := keys_eq_ok_iff.mp composed
    have bound :=
      Outcome.exists_mapM_eq_ok_iff.mp
        ⟨clauses, Outcome.mapM_eq_ok_iff.mpr clausesOk⟩
    exact ⟨present, fun entry member =>
      ⟨named entry member, bound entry member⟩⟩
  · rintro ⟨present, each⟩
    obtain ⟨clauses, clausesOk⟩ :=
      Outcome.exists_mapM_eq_ok_iff.mpr fun entry member =>
        (each entry member).2
    exact ⟨_, keys_eq_ok_iff.mpr
      ⟨present, fun entry member => (each entry member).1, clauses,
        Outcome.mapM_eq_ok_iff.mp clausesOk, rfl⟩⟩

end RecordSql.Composer
