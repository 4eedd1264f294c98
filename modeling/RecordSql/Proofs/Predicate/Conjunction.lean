import RecordSql.Dialect
import RecordSql.Proofs.Binding.Definite
import RecordSql.Proofs.Keys.Insertion
import RecordSql.Proofs.Predicate.Keys
import RecordSql.Proofs.Text

/-!
# The conjunction of keys

Keys are composed in the order in which their names were first given: a test
of each name, with AND between one and the next.  A name whose last value is
null is tested for null and has no parameter; any other is compared with
one.  Keys that cannot be told apart from all rows are refused before any
value is looked at.
-/

namespace RecordSql

namespace Formats

variable {formats : Formats} {value : Value} {column : Column} {fault : Fault}

theorem invalidValue_of_bind
    (refused : formats.bind value column = .error fault) :
    ∃ expected found, fault = .invalidValue column.name expected found := by
  unfold bind at refused
  split at refused
  · cases refused
  · split at refused
    all_goals first
      | cases refused
      | (split at refused <;> cases refused; exact ⟨_, _, rfl⟩)

theorem unsupportedOperand_of_bindOperand
    (refused : formats.bindOperand value = .error fault) :
    ∃ detail, fault = .unsupportedOperand detail := by
  unfold bindOperand at refused
  split at refused
  case h_4 =>
    split at refused
    · cases refused
    · cases refused
      exact ⟨_, rfl⟩
  all_goals cases refused

end Formats

namespace Composer

variable {composer : Composer} {table : Option Table} {keys : Keys}
  {given : List (String × Value)} {name : String} {value : Value}

/-- What a key is refused for, if not for its name. -/
private theorem refusal_of_keyClause {fault : Fault}
    (refused : composer.keyClause table name value = .error fault) :
    fault ≠ .emptyKeySet ∧ fault ≠ .emptyKeyName := by
  have named :
      (∃ column expected found, fault = .invalidValue column expected found) ∨
        ∃ detail, fault = .unsupportedOperand detail := by
    have unbound := (keyClause_eq_error_iff.mp refused).2
    unfold keyParam at unbound
    split at unbound
    · exact .inl ⟨_, Formats.invalidValue_of_bind unbound⟩
    · exact .inr (Formats.unsupportedOperand_of_bindOperand unbound)
  rcases named with ⟨column, expected, found, rfl⟩ | ⟨detail, rfl⟩
  · exact ⟨by simp, by simp⟩
  · exact ⟨by simp, by simp⟩

private theorem refusal_of_clauses {entries : List (String × Value)}
    {fault : Fault} (refused : Statement.join " AND " <$>
      (entries.mapM fun entry => composer.keyClause table entry.1 entry.2) =
      .error fault) : fault ≠ .emptyKeySet ∧ fault ≠ .emptyKeyName := by
  obtain ⟨entry, _, clauseRefused⟩ :=
    Outcome.exists_of_mapM_eq_error (Outcome.map_eq_error_iff.mp refused)
  exact refusal_of_keyClause clauseRefused

theorem keys_eq_emptyKeySet_iff :
    composer.keys table keys = .error .emptyKeySet ↔ keys.entries = [] := by
  rcases keys_cases composer table keys with
    ⟨nothing, refused⟩ | ⟨present, _, refused⟩ | ⟨present, _, composed⟩
  · exact iff_of_true refused nothing
  · exact iff_of_false (by simp [refused]) present
  · refine iff_of_false (fun refused => ?_) present
    rw [composed] at refused
    exact (refusal_of_clauses refused).1 rfl

theorem keys_eq_emptyKeyName_iff :
    composer.keys table keys = .error .emptyKeyName ↔
      keys.entries ≠ [] ∧
        ∃ entry ∈ keys.entries, Text.isAllBlank entry.1 = true := by
  rcases keys_cases composer table keys with
    ⟨nothing, refused⟩ | ⟨present, blank, refused⟩ | ⟨_, named, composed⟩
  · exact iff_of_false (by simp [refused]) fun others => others.1 nothing
  · exact iff_of_true refused ⟨present, blank⟩
  · refine iff_of_false (fun refused => ?_) ?_
    · rw [composed] at refused
      exact (refusal_of_clauses refused).2 rfl
    · rintro ⟨_, entry, member, blank⟩
      rw [named entry member] at blank
      cases blank

/-- The tests of keys as they are executed, with so many
parameters before them. -/
def testTexts (dialect : Dialect) : Nat → List (String × Value) → List String
  | _, [] => []
  | before, (name, value) :: entries =>
    if value.isNull then
      (dialect.quoteName name ++ " IS NULL") :: testTexts dialect before entries
    else
      (dialect.quoteName name ++ " = " ++ dialect.placeholder (before + 1)) ::
        testTexts dialect (before + 1) entries

/-- Keys to which entries were given are refused for want of a name that says
anything, or for a value that cannot be bound, or else they are composed to one
test for each name. -/
structure ConjoinsInOrder (composer : Composer) (table : Option Table)
    (keys : Keys) (given : List (String × Value)) : Prop where
  emptySet : composer.keys table keys = .error .emptyKeySet ↔ given = []
  /-- A blank name refuses the keys, whether or not their values can be
  bound. -/
  emptyName : composer.keys table keys = .error .emptyKeyName ↔
    given ≠ [] ∧ ∃ entry ∈ given, Text.trim entry.1 = ""
  accepted : (∃ statement, composer.keys table keys = .ok statement) ↔
    given ≠ [] ∧ (∀ entry ∈ given, Text.trim entry.1 ≠ "") ∧
      ∀ entry ∈ keys.entries, entry.2 ≠ .null →
        ∃ param, composer.BindsKey table entry.1 entry.2 param
  tests : ∀ statement, composer.keys table keys = .ok statement →
    ∃ tests, List.Forall₂ (composer.TestsKey table) keys.entries tests ∧
      statement = .join " AND " tests
  executable : ∀ statement, composer.keys table keys = .ok statement →
    statement.executable composer.dialect =
      " AND ".intercalate (testTexts composer.dialect 0 keys.entries)
  params : ∀ statement, composer.keys table keys = .ok statement →
    List.Forall₂ (fun entry param =>
      composer.BindsKey table entry.1 entry.2 param)
      (keys.entries.filter fun entry => !entry.2.isNull) statement.params

section Tests

variable {entries : List (String × Value)} {tests : List Statement}

private theorem renderEach_tests
    (tested : List.Forall₂ (composer.TestsKey table) entries tests)
    (before : Nat) :
    Statement.renderEach
        (fun position _ => composer.dialect.placeholder position) before tests =
      testTexts composer.dialect before entries := by
  induction tested generalizing before with
  | nil => rfl
  | cons first _ induction =>
      rw [Statement.renderEach, induction]
      cases first with
      | null name =>
          simp [testTexts, Value.isNull, quote]
      | equal present binds =>
          simp [testTexts, Value.isNull_iff, present, quote]

private theorem params_tests
    (tested : List.Forall₂ (composer.TestsKey table) entries tests) :
    List.Forall₂ (fun entry param =>
      composer.BindsKey table entry.1 entry.2 param)
      (entries.filter fun entry => !entry.2.isNull)
      (tests.flatMap Statement.params) := by
  induction tested with
  | nil => exact .nil
  | cons first _ induction =>
      cases first with
      | null name => simpa [Value.isNull] using induction
      | equal present binds =>
          have kept := Bool.not_eq_true _ ▸ mt Value.isNull_iff.mp present
          rw [List.filter_cons_of_pos (by simp [kept])]
          simpa using ⟨binds, induction⟩

private theorem exists_test_iff {entry : String × Value} :
    (∃ test, composer.keyClause table entry.1 entry.2 = .ok test) ↔
      (entry.2 ≠ .null →
        ∃ param, composer.BindsKey table entry.1 entry.2 param) := by
  obtain ⟨name, value⟩ := entry
  simp only [keyClause_eq_ok_iff]
  constructor
  · rintro ⟨test, _ | ⟨_, binds⟩⟩ present
    · exact absurd rfl present
    · exact ⟨_, binds⟩
  · intro bound
    by_cases null : value = .null
    · exact ⟨_, null ▸ TestsKey.null name⟩
    · obtain ⟨param, binds⟩ := bound null
      exact ⟨_, .equal null binds⟩

end Tests

variable {statement : Statement}

theorem tests_of_keys (composed : composer.keys table keys = .ok statement) :
    ∃ tests, List.Forall₂ (composer.TestsKey table) keys.entries tests ∧
      statement = .join " AND " tests := by
  obtain ⟨_, _, tests, testsOk, joined⟩ := keys_eq_ok_iff.mp composed
  exact ⟨tests, testsOk.imp fun _ _ => keyClause_eq_ok_iff.mp, joined⟩

theorem executable_of_keys
    (composed : composer.keys table keys = .ok statement) :
    statement.executable composer.dialect =
      " AND ".intercalate (testTexts composer.dialect 0 keys.entries) := by
  obtain ⟨tests, tested, rfl⟩ := tests_of_keys composed
  rw [Statement.executable_eq_renderFrom, Statement.renderFrom_join,
    renderEach_tests tested]

theorem params_of_keys (composed : composer.keys table keys = .ok statement) :
    List.Forall₂ (fun entry param =>
      composer.BindsKey table entry.1 entry.2 param)
      (keys.entries.filter fun entry => !entry.2.isNull) statement.params := by
  obtain ⟨tests, tested, rfl⟩ := tests_of_keys composed
  rw [Statement.params_join]
  exact params_tests tested

/-- However keys are made, they hold each name where it was given first and with
its last value, and are composed to the tests of these names in this order. -/
theorem conjoinsInOrder (composer : Composer) (table : Option Table)
    (steps : List Keys.Step) : (Keys.ofSteps steps).Holds (Keys.given steps) ∧
      composer.ConjoinsInOrder table (Keys.ofSteps steps)
        (Keys.given steps) := by
  have holds := Keys.holds_ofSteps steps
  have present : (Keys.ofSteps steps).entries ≠ [] ↔ Keys.given steps ≠ [] :=
    not_congr holds.entries_eq_nil_iff
  have named :
      (∀ entry ∈ (Keys.ofSteps steps).entries,
          Text.isAllBlank entry.1 = false) ↔
        ∀ entry ∈ Keys.given steps, Text.trim entry.1 ≠ "" := by
    simp only [ne_eq, Text.trim_eq_empty_iff, Bool.not_eq_true]
    exact holds.forall_name_iff fun name => Text.isAllBlank name = false
  have blank :
      (∃ entry ∈ (Keys.ofSteps steps).entries, Text.isAllBlank entry.1 = true) ↔
        ∃ entry ∈ Keys.given steps, Text.trim entry.1 = "" := by
    simpa using not_congr named
  refine ⟨holds, ?emptySet, ?emptyName, ?accepted, fun _ => tests_of_keys,
    fun _ => executable_of_keys, fun _ => params_of_keys⟩
  case emptySet => rw [keys_eq_emptyKeySet_iff, holds.entries_eq_nil_iff]
  case emptyName => rw [keys_eq_emptyKeyName_iff, blank, present]
  case accepted =>
    rw [exists_keys_eq_ok_iff, ← named, ← present, Keys.isEmpty,
      List.isEmpty_eq_false_iff]
    simp only [exists_test_iff, forall_and]

/-- A collection, after which two of the keys are given again, one
of them as null. -/
theorem conjoinsInOrder_givenAgain :
    let composer : Composer := ⟨.sqlserver, ⟨none, none⟩⟩
    let table : Table :=
      ⟨"parts", [.ofDeclared ⟨"id", "int", false, true, none⟩]⟩
    let steps : List Keys.Step :=
      [.insert "old" .null, .collect
        [("code", .string "x"), ("id", .null), ("tag", .null)],
        .insert "note" (.string "n"), .insert "id" (.string "7"),
        .insert "code" .null]
    let composed : Statement :=
      .ofPieces [.text "[code] IS NULL AND [id] = ", .param (.integer 7),
        .text " AND [tag] IS NULL AND [note] = ", .param (.text "n")]
    composer.keys (some table) (Keys.ofSteps steps) = .ok composed ∧
      (Keys.ofSteps steps).entries.map Prod.fst =
        ["code", "id", "tag", "note"] ∧
      (Keys.ofSteps steps).get? "id" = some (.string "7") ∧
      composed.executable .sqlserver =
        "[code] IS NULL AND [id] = @P1 AND [tag] IS NULL AND [note] = @P2" := by
  intro composer table steps composed
  have composedOk : composer.keys (some table) (Keys.ofSteps steps) =
      .ok composed := by
    decide +kernel
  obtain ⟨holds, conjoins⟩ := conjoinsInOrder composer (some table) steps
  refine ⟨composedOk, holds.order.trans (by decide +kernel),
    (holds.found "id").trans (by decide +kernel),
    (conjoins.executable composed composedOk).trans (by decide +kernel)⟩

end Composer

end RecordSql
