import RecordSql.Proofs.Predicate.Groups
import RecordSql.Proofs.Predicate.Restriction
import RecordSql.Proofs.Predicate.Splitting
import RecordSql.Proofs.Statement.Literal

/-!
# Substitution in group maps

The predicate of a filter with a group map is its template with the groups
written in: `Substitutes` says so of the template's text, cut from left to
right.  It takes the names that a token can have as a parameter.  They are the
declared names without a colon; with a colon a name stands between no two colons
in a row, and is copied like any other text.
-/

namespace RecordSql

/-- The first group of a name that has a condition. -/
def filledGroup? (groups : List ConditionGroup) (name : String) :
    Option ConditionGroup :=
  groups.find? fun group => group.name == name && !group.conditions.isEmpty

def Statement.Parenthesized (statement : Statement) : Prop :=
  ∃ inside, statement = (Statement.ofSql "(" ++ inside).sql ")"

namespace GroupMapPiece

/-- A copied text as it is, and for a token what is written for its name. -/
def statement (written : String → Statement) : GroupMapPiece → Statement
  | .text copied => .ofSql copied
  | .group name => written name

def name? : GroupMapPiece → Option String
  | .text _ => none
  | .group name => some name

end GroupMapPiece

namespace Composer

variable {composer : Composer} {table : Option Table}

/-- The predicate of a filter is its template with the groups written in for the
pieces that are tokens, where every other piece is copied. -/
structure Substitutes (composer : Composer) (table : Option Table)
    (names : List String) (filter : Filter) (template : String)
    (pieces : List GroupMapPiece) : Prop where
  splits : GroupMap.Splits names template.toList pieces
  unique : ∀ others, GroupMap.Splits names template.toList others →
    others = pieces
  source : pieces.flatMap GroupMapPiece.source = template.toList
  copied : ∀ copied, .text copied ∈ pieces →
    ∀ position, ¬ GroupMap.TokenAt names copied.toList position
  /-- The first token with only empty groups of its name refuses. -/
  empty : ∀ before name after, pieces = before ++ .group name :: after →
    (∀ earlier, .group earlier ∈ before →
      (filledGroup? filter.groups earlier).isSome) →
    filledGroup? filter.groups name = none →
    composer.filter table filter = .error (.emptyGroup name)
  /-- Without such a token every piece is written, and has the
  parameters of its group. -/
  filled :
    (∀ name, .group name ∈ pieces → (filledGroup? filter.groups name).isSome) →
      ∃ written : String → Statement,
        (∀ name, .group name ∈ pieces → (written name).Parenthesized ∧
          ∃ group, filledGroup? filter.groups name = some group ∧
            composer.group table group = .ok (some (written name))) ∧
        ∃ statement, composer.filter table filter = .ok statement ∧
          statement = .join "" (pieces.map (GroupMapPiece.statement written)) ∧
          statement.params =
            (pieces.filterMap GroupMapPiece.name?).flatMap fun name =>
              (written name).params

private theorem parenthesized_of_group {name : String} {first : Condition}
    {rest : List Condition} {statement? : Option Statement}
    (composed : composer.group table ⟨name, first :: rest⟩ = .ok statement?) :
    ∃ statement, statement? = some statement ∧ statement.Parenthesized := by
  obtain ⟨clause, _, further⟩ := Outcome.bind_eq_ok_iff.mp composed
  obtain ⟨statement, furtherOk, closed⟩ := Outcome.bind_eq_ok_iff.mp further
  cases closed
  obtain ⟨⟨after, rfl⟩, _⟩ := contains_of_furtherConditions furtherOk
  exact ⟨_, rfl, clause ++ after, by rw [Statement.append_assoc]⟩

/-- What the composed groups have under a name is composed from its
first filled group. -/
theorem find?_of_groups {groups : List ConditionGroup}
    {composed : List ComposedGroup}
    (succeeded : composer.groups table groups = .ok composed) (name : String) :
    (filledGroup? groups name = none ∧
        composed.find? (fun group => group.name == name) = none) ∨
      ∃ group statement, filledGroup? groups name = some group ∧
        composer.group table group = .ok (some statement) ∧
        statement.Parenthesized ∧
        composed.find? (fun group => group.name == name) =
          some ⟨name, statement⟩ := by
  induction groups generalizing composed with
  | nil =>
      cases succeeded
      exact .inl ⟨rfl, rfl⟩
  | cons group groups induction =>
      obtain ⟨statement?, first, continued⟩ :=
        Outcome.bind_eq_ok_iff.mp succeeded
      obtain ⟨others, restOk, combined⟩ := Outcome.bind_eq_ok_iff.mp continued
      obtain ⟨own, conditions⟩ := group
      cases conditions with
      | nil =>
          cases first
          cases combined
          simpa [filledGroup?] using induction restOk
      | cons condition conditions =>
          obtain ⟨statement, rfl, parenthesized⟩ := parenthesized_of_group first
          cases combined
          by_cases same : own = name
          · subst same
            exact .inr ⟨⟨own, condition :: conditions⟩,
              statement, by simp [filledGroup?], first, parenthesized, by simp⟩
          · simpa [filledGroup?, same] using induction restOk

private theorem exists_of_filled {groups : List ConditionGroup}
    {composed : List ComposedGroup}
    (succeeded : composer.groups table groups = .ok composed) {name : String}
    (isFilled : (filledGroup? groups name).isSome) :
    ∃ group statement, filledGroup? groups name = some group ∧
      composer.group table group = .ok (some statement) ∧
      statement.Parenthesized ∧
      composed.find? (fun group => group.name == name) =
        some ⟨name, statement⟩ := by
  rcases find?_of_groups succeeded name with ⟨empty, _⟩ | found
  · rw [empty] at isFilled
    cases isFilled
  · exact found

private theorem groups_eq_error {before after : List ConditionGroup}
    {failing : ConditionGroup} {fault : Fault}
    (beforeOk :
      ∀ group ∈ before, ∃ composed, composer.group table group = .ok composed)
    (failed : composer.group table failing = .error fault) :
    composer.groups table (before ++ failing :: after) = .error fault := by
  induction before with
  | nil => simp only [List.nil_append, groups, failed]; rfl
  | cons group before induction =>
      obtain ⟨⟨composed, groupOk⟩, restOk⟩ := List.forall_mem_cons.mp beforeOk
      simp only [List.cons_append, groups, groupOk, induction restOk]
      rfl

private theorem append_eachAfter_cons (statement first : Statement)
    (rest : List Statement) :
    statement ++ Statement.eachAfter "" (first :: rest) =
      statement ++ first ++ Statement.eachAfter "" rest := by
  simp only [Statement.eachAfter, ← Statement.append_assoc,
    Statement.append_ofSql, Statement.sql_nothing]

private theorem empty_append_eachAfter (items : List Statement) :
    Statement.empty ++ Statement.eachAfter "" items =
      Statement.join "" items := by
  cases items with
  | nil => rfl
  | cons first rest =>
      rw [append_eachAfter_cons, Statement.join_cons, Statement.empty_append]

section Pieces

variable {composed : List ComposedGroup} {written : String → Statement}

private theorem fillPieces_eq_ok {pieces : List GroupMapPiece}
    (found : ∀ name, .group name ∈ pieces →
      composed.find? (fun group => group.name == name) =
        some ⟨name, written name⟩) (statement : Statement) :
    fillPieces composed pieces statement =
      .ok (statement ++
        Statement.eachAfter ""
          (pieces.map (GroupMapPiece.statement written))) := by
  induction pieces generalizing statement with
  | nil => rfl
  | cons piece pieces induction =>
      have restFound := fun name later =>
        found name (List.mem_cons_of_mem piece later)
      rw [List.map_cons, append_eachAfter_cons]
      cases piece with
      | text copied =>
          rw [fillPieces, induction restFound, GroupMapPiece.statement,
            Statement.append_ofSql]
      | group name =>
          rw [fillPieces, found name List.mem_cons_self]
          exact induction restFound (statement ++ written name)

private theorem fillPieces_eq_error {before after : List GroupMapPiece}
    {name : String} (found : ∀ earlier, .group earlier ∈ before →
      (composed.find? fun group => group.name == earlier).isSome)
    (missing : composed.find? (fun group => group.name == name) = none)
    (statement : Statement) :
    fillPieces composed (before ++ .group name :: after) statement =
      .error (.emptyGroup name) := by
  induction before generalizing statement with
  | nil => rw [List.nil_append, fillPieces, missing]
  | cons piece before induction =>
      have restFound := fun earlier later =>
        found earlier (List.mem_cons_of_mem piece later)
      cases piece with
      | text copied => exact induction restFound (statement.sql copied)
      | group earlier =>
          obtain ⟨group, isFound⟩ :=
            Option.isSome_iff_exists.mp (found earlier List.mem_cons_self)
          rw [List.cons_append, fillPieces, isFound]
          exact induction restFound (statement ++ group.statement)

private theorem flatMap_params (pieces : List GroupMapPiece) :
    (pieces.map (GroupMapPiece.statement written)).flatMap Statement.params =
      (pieces.filterMap GroupMapPiece.name?).flatMap fun name =>
        (written name).params := by
  induction pieces with
  | nil => rfl
  | cons piece pieces induction =>
      rw [List.map_cons, List.flatMap_cons, induction, List.filterMap_cons]
      cases piece with
      | text copied => exact congrArg (· ++ _) (Statement.params_ofSql copied)
      | group name => rfl

end Pieces

section Groups

variable {groups : List ConditionGroup} {composed : List ComposedGroup}

private theorem fillPieces_of_empty
    (succeeded : composer.groups table groups = .ok composed)
    {before after : List GroupMapPiece} {name : String}
    (filled : ∀ earlier, .group earlier ∈ before →
      (filledGroup? groups earlier).isSome)
    (empty : filledGroup? groups name = none) :
    fillPieces composed (before ++ .group name :: after) .empty =
      .error (.emptyGroup name) := by
  apply fillPieces_eq_error
  · intro earlier member
    obtain ⟨_, _, _, _, _, found⟩ :=
      exists_of_filled succeeded (filled earlier member)
    rw [found]
    rfl
  · rcases find?_of_groups succeeded name with
      ⟨_, missing⟩ | ⟨_, _, isFilled, _⟩
    · exact missing
    · rw [empty] at isFilled
      cases isFilled

theorem fillPieces_of_filled
    (succeeded : composer.groups table groups = .ok composed)
    {pieces : List GroupMapPiece}
    (filled : ∀ name, .group name ∈ pieces →
      (filledGroup? groups name).isSome) : ∃ written : String → Statement,
      (∀ name, .group name ∈ pieces → (written name).Parenthesized ∧
        ∃ group, filledGroup? groups name = some group ∧
          composer.group table group = .ok (some (written name))) ∧
      fillPieces composed pieces .empty =
        .ok (.join "" (pieces.map (GroupMapPiece.statement written))) := by
  let written := fun name =>
    ((composed.find? fun group => group.name == name).map
      ComposedGroup.statement).getD .empty
  have isWritten : ∀ name, .group name ∈ pieces →
      composed.find? (fun group => group.name == name) =
        some ⟨name, written name⟩ ∧
      (written name).Parenthesized ∧
      ∃ group, filledGroup? groups name = some group ∧
        composer.group table group = .ok (some (written name)) := by
    intro name member
    obtain ⟨group, statement, isFilled, groupOk, parenthesized, found⟩ :=
      exists_of_filled succeeded (filled name member)
    have same : written name = statement := by
      simp only [written, found]
      rfl
    rw [same]
    exact ⟨found, parenthesized, group, isFilled, groupOk⟩
  refine ⟨written, fun name member => (isWritten name member).2, ?_⟩
  rw [fillPieces_eq_ok fun name member => (isWritten name member).1,
    empty_append_eachAfter]

end Groups

theorem filter_eq_fillPieces {filter : Filter} {template : String}
    {composed : List ComposedGroup} {pieces : List GroupMapPiece}
    (mapped : filter.groupMap = some template)
    (present : Text.trim template ≠ "")
    (succeeded : composer.groups table filter.groups = .ok composed)
    (written : ∀ composed statement,
      fillPieces composed
          (groupMapPieces (filter.groups.map ConditionGroup.name)
            (Text.pieces ':' (Text.trim template))) statement =
        fillPieces composed pieces statement) :
    composer.filter table filter = fillPieces composed pieces .empty := by
  rw [← written, Composer.filter, succeeded, mapped]
  exact if_pos present

/-- A group that cannot be composed refuses the filter, whatever its group map.
With groups that can, a group map that is not blank is the predicate, with the
first filled group of the name in place of every token. -/
theorem substitutes_filter (composer : Composer) (table : Option Table)
    (filter : Filter) :
    (∀ before failing after fault, filter.groups = before ++ failing :: after →
      (∀ group ∈ before, ∃ composed,
        composer.group table group = .ok composed) →
      composer.group table failing = .error fault →
      composer.filter table filter = .error fault) ∧
    ∀ template, filter.groupMap = some template → Text.trim template ≠ "" →
      (∀ group ∈ filter.groups, ∃ composed,
        composer.group table group = .ok composed) →
      ∃ pieces, composer.Substitutes table
        (GroupMap.plainNames (filter.groups.map ConditionGroup.name)) filter
        (Text.trim template) pieces := by
  refine ⟨?fails, ?substitutes⟩
  case fails =>
    intro before failing after fault split beforeOk failed
    rw [Composer.filter, split, groups_eq_error beforeOk failed]
    rfl
  case substitutes =>
    intro template mapped present allOk
    obtain ⟨composed, succeeded⟩ := exists_groups allOk
    obtain ⟨pieces, splits, same⟩ :=
      GroupMap.exists_splits (filter.groups.map ConditionGroup.name)
        (Text.trim template)
    have outcome := filter_eq_fillPieces mapped present succeeded same
    have plain :
      ∀ name ∈ GroupMap.plainNames (filter.groups.map ConditionGroup.name),
        ':' ∉ name.toList := fun name member =>
          (GroupMap.mem_plainNames_iff.mp member).2
    refine ⟨pieces, splits, fun others otherwise => otherwise.unique plain
      splits, splits.flatMap_source,
      fun _ member _ => splits.not_tokenAt_of_text member, ?empty, ?filled⟩
    case empty =>
      intro before name after split filled empty
      rw [outcome, split]
      exact fillPieces_of_empty succeeded filled empty
    case filled =>
      intro filled
      obtain ⟨written, groupsOk, filledIn⟩ :=
        fillPieces_of_filled succeeded filled
      refine ⟨written, groupsOk, _, outcome.trans filledIn, rfl, ?_⟩
      rw [Statement.params_join, flatMap_params]

example :
    let composer : Composer := ⟨.sqlite, ⟨none, none⟩⟩
    let groups : List ConditionGroup :=
      [⟨"a", []⟩, ⟨"a", [.of "n" .equal (.integer 1)]⟩]
    let filter : Filter := { Filter.empty with
      groups, groupMap := some " :x:a: < 10:30:00 :a:: " }
    composer.filter none filter =
      .ok (.ofPieces [.text ":x(n = ", .param (.integer 1),
        .text ") < 10:30:00 (n = ", .param (.integer 1), .text "):"]) := by
  decide +kernel

/-- Tokens that share a colon with other text, an empty group before a filled
one of its name, an empty name, and a name with a colon. -/
theorem substitutes_filter_overlap :
    let composer : Composer := ⟨.sqlite, ⟨none, none⟩⟩
    let groups : List ConditionGroup :=
      [⟨"a", []⟩, ⟨"x:y", []⟩, ⟨"a", [.of "n" .equal (.integer 1)]⟩, ⟨"", []⟩]
    let filter : Filter :=
      { Filter.empty with groups, groupMap := some " :x:a: < 10:30:00 :a: " }
    let failing : ConditionGroup := ⟨"b", [.of "n" .equal .null]⟩
    composer.filter none { filter with groups := groups ++ [failing] } =
        .error (.unsupportedOperand "NULL operand for operator =") ∧
      ∃ pieces, composer.Substitutes
        none (GroupMap.plainNames ["a", "x:y", "a", ""]) filter
        ":x:a: < 10:30:00 :a:" pieces := by
  intro composer groups filter failing
  have allOk : ∀ group ∈ groups, ∃ composed,
      composer.group none group = .ok composed := by
    simp only [groups, List.forall_mem_cons]
    exact ⟨⟨_, rfl⟩, ⟨_, rfl⟩, ⟨_, rfl⟩, ⟨_, rfl⟩, by simp⟩
  constructor
  · exact (substitutes_filter composer none _).1 groups failing [] _
      rfl allOk rfl
  · exact (substitutes_filter composer none filter).2 " :x:a: < 10:30:00 :a: "
      rfl (by decide +kernel) allOk

/-- Every declared name could not be one: a name with a colon in it is
copied, not written. -/
theorem not_substitutes_colonName :
    let composer : Composer := ⟨.sqlite, ⟨none, none⟩⟩
    let filter : Filter :=
      (Filter.empty.addTo "x:y" (.of "a" .equal (.integer 1))).withGroupMap
        ":x:y:"
    filter.groupMap = some ":x:y:" ∧ Text.trim ":x:y:" = ":x:y:" ∧
      (∀ group ∈ filter.groups, ∃ composed,
        composer.group none group = .ok composed) ∧
      ¬ ∃ pieces, composer.Substitutes
        none (filter.groups.map ConditionGroup.name) filter ":x:y:" pieces := by
  intro composer filter
  refine ⟨rfl, by decide +kernel, ?composed, ?refuted⟩
  case composed =>
    intro group member
    obtain rfl := List.mem_singleton.mp member
    exact ⟨_, rfl⟩
  case refuted =>
    rintro ⟨pieces, substitutes⟩
    have cut : GroupMap.Splits ["x:y"]
        ([] ++ ':' :: ("x:y".toList ++ ':' :: []))
        [.text (String.ofList []), .group "x:y", .text (String.ofList [])] :=
      .token List.mem_cons_self .nil
        (.last fun _ => GroupMap.not_tokenAt_of_plain List.not_mem_nil)
    obtain rfl := substitutes.unique _ cut
    have filled : ∀ name, GroupMapPiece.group name ∈
        [.text (String.ofList []), .group "x:y", .text (String.ofList [])] →
        (filledGroup? filter.groups name).isSome := by
      intro name member
      obtain rfl : name = "x:y" := by simpa using member
      rfl
    obtain ⟨written, groupsOk, statement, outcome, _, params⟩ :=
      substitutes.filled filled
    obtain ⟨_, group, isFilled, groupOk⟩ := groupsOk "x:y" (by simp)
    have copied : composer.filter none filter = .ok (.ofSql ":x:y:") := by
      decide +kernel
    cases outcome.symm.trans copied
    cases isFilled
    have bound : (written "x:y").params = [.integer 1] := by
      rw [← Option.some.inj (Except.ok.inj groupOk)]
      simp
    simp [GroupMapPiece.name?, bound] at params

end Composer

end RecordSql
