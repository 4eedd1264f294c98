import RecordSql.Proofs.Predicate.Substitution

/-!
# Groups that share a name

A group map names its groups, and of several groups of one name that have
conditions the first is written.  So every condition of the named groups is sure
to be a part of the predicate exactly where no two groups with conditions share
a name that is used.
-/

namespace RecordSql

/-- The groups of a name that have conditions. -/
def Filter.filledGroups (filter : Filter) (name : String) :
    List ConditionGroup :=
  filter.groups.filter fun group =>
    group.name == name && !group.conditions.isEmpty

/-- Two filters name and fill their groups alike, and combine them alike, but
may have other conditions in them. -/
structure Filter.SameOutline (left right : Filter) : Prop where
  groupMap : left.groupMap = right.groupMap
  groups : List.Forall₂
    (fun group other => group.name = other.name ∧
      group.conditions.isEmpty = other.conditions.isEmpty)
    left.groups right.groups

namespace Composer

variable {composer : Composer} {table : Option Table}

/-- Every condition of every group that a token names is a part
of the predicate. -/
def KeepsNamed (composer : Composer) (table : Option Table)
    (pieces : List GroupMapPiece) (filter : Filter)
    (predicate : Statement) : Prop :=
  ∀ group ∈ filter.groups, .group group.name ∈ pieces →
    ∀ condition ∈ group.conditions, ∃ clause,
      composer.condition table condition = .ok clause ∧
        predicate.Contains clause

private theorem found_of_fillPieces {composed : List ComposedGroup}
    {pieces : List GroupMapPiece} {before statement : Statement}
    (filled : fillPieces composed pieces before = .ok statement) {name : String}
    (named : .group name ∈ pieces) :
    (composed.find? fun group => group.name == name).isSome := by
  induction pieces generalizing before with
  | nil => cases named
  | cons piece pieces induction =>
      cases piece with
      | text copied =>
          rcases List.mem_cons.mp named with same | later
          · cases same
          · exact induction filled later
      | group other =>
          rw [fillPieces] at filled
          split at filled
          · cases filled
          · next group found =>
              rcases List.mem_cons.mp named with same | later
              · cases same
                rw [found]
                rfl
              · exact induction filled later

section Filters

variable {filter : Filter} {template : String} {pieces : List GroupMapPiece}
  {predicate : Statement} (mapped : filter.groupMap = some template)
  (present : Text.trim template ≠ "")
  (splits :
    GroupMap.Splits
      (GroupMap.plainNames (filter.groups.map ConditionGroup.name))
      (Text.trim template).toList pieces)

include mapped present splits

/-- A filter with a group map is its pieces, filled with its groups. -/
private theorem filter_eq_pieces {composed : List ComposedGroup}
    (succeeded : composer.groups table filter.groups = .ok composed) :
    composer.filter table filter = fillPieces composed pieces .empty := by
  obtain ⟨others, otherwise, same⟩ :=
    GroupMap.exists_splits (filter.groups.map ConditionGroup.name)
      (Text.trim template)
  have plain :
    ∀ name ∈ GroupMap.plainNames (filter.groups.map ConditionGroup.name),
      ':' ∉ name.toList := fun name member =>
        (GroupMap.mem_plainNames_iff.mp member).2
  obtain rfl := splits.unique plain otherwise
  exact filter_eq_fillPieces mapped present succeeded same

private theorem filled_of_filter
    (composed : composer.filter table filter = .ok predicate) :
    ∀ name, .group name ∈ pieces →
      (filledGroup? filter.groups name).isSome := by
  intro name named
  obtain ⟨groups, groupsOk, _⟩ := Outcome.bind_eq_ok_iff.mp composed
  rw [filter_eq_pieces mapped present splits groupsOk] at composed
  rcases find?_of_groups groupsOk name with
    ⟨_, missing⟩ | ⟨group, _, isFilled, _⟩
  · have found := found_of_fillPieces composed named
    rw [missing] at found
    cases found
  · rw [isFilled]
    rfl

private theorem written_of_filter
    (composed : composer.filter table filter = .ok predicate) :
    ∃ written : String → Statement,
      (∀ name, .group name ∈ pieces →
        ∃ group, filledGroup? filter.groups name = some group ∧
          composer.group table group = .ok (some (written name))) ∧
      predicate = .join "" (pieces.map (GroupMapPiece.statement written)) := by
  have filled := filled_of_filter mapped present splits composed
  obtain ⟨groups, groupsOk, _⟩ := Outcome.bind_eq_ok_iff.mp composed
  rw [filter_eq_pieces mapped present splits groupsOk] at composed
  obtain ⟨written, groupsOk, filledIn⟩ := fillPieces_of_filled groupsOk filled
  refine ⟨written, fun name named => (groupsOk name named).2, ?_⟩
  exact Except.ok.inj (composed.symm.trans filledIn)

private theorem keepsNamed_of_single
    (composed : composer.filter table filter = .ok predicate)
    (single : ∀ name, .group name ∈ pieces →
      (filter.filledGroups name).length ≤ 1) :
    composer.KeepsNamed table pieces filter predicate := by
  intro group member named condition inGroup
  obtain ⟨written, groupsOk, rfl⟩ :=
    written_of_filter mapped present splits composed
  obtain ⟨first, isFirst, firstOk⟩ := groupsOk group.name named
  have inFilled : group ∈ filter.filledGroups group.name := by
    simp [Filter.filledGroups, member, List.ne_nil_of_mem inGroup]
  have firstInFilled : first ∈ filter.filledGroups group.name := by
    have head : (filter.filledGroups group.name).head? = some first := by
      rw [Filter.filledGroups, List.head?_filter]
      exact isFirst
    exact List.mem_of_head? head
  obtain ⟨only, alone⟩ := List.length_eq_one_iff.mp
    (Nat.le_antisymm (single group.name named)
      (List.length_pos_of_mem inFilled))
  rw [alone] at inFilled firstInFilled
  obtain rfl := List.mem_singleton.mp inFilled
  obtain rfl := List.mem_singleton.mp firstInFilled
  obtain ⟨clause, clauseOk, _, ⟨⟩, contains⟩ :=
    (contains_of_group firstOk).2 condition inGroup
  refine ⟨clause, clauseOk, (Statement.contains_join ?_).trans contains⟩
  exact List.mem_map.mpr ⟨.group first.name, named, rfl⟩

private theorem exists_filter {composed : List ComposedGroup}
    (succeeded : composer.groups table filter.groups = .ok composed)
    (filled : ∀ name, .group name ∈ pieces →
      (filledGroup? filter.groups name).isSome) :
    ∃ predicate, composer.filter table filter = .ok predicate := by
  obtain ⟨written, _, filledIn⟩ := fillPieces_of_filled succeeded filled
  exact ⟨_, (filter_eq_pieces mapped present splits succeeded).trans filledIn⟩

end Filters

end Composer

namespace Filter.SameOutline

variable {left right : Filter}

theorem names_eq (same : left.SameOutline right) :
    left.groups.map ConditionGroup.name =
      right.groups.map ConditionGroup.name := by
  have names := same.groups.imp fun _ _ alike => alike.1
  rw [← List.forall₂_eq_eq_eq, List.forall₂_map_left_iff,
    List.forall₂_map_right_iff]
  exact names

end Filter.SameOutline

/-- The groups of two filters of one outline. -/
private abbrev Outlined : List ConditionGroup → List ConditionGroup → Prop :=
  List.Forall₂ fun group other => group.name = other.name ∧
    group.conditions.isEmpty = other.conditions.isEmpty

private theorem outlined_filled {lefts rights : List ConditionGroup}
    (same : Outlined lefts rights) (name : String) :
    Outlined (lefts.filter fun group =>
      group.name == name && !group.conditions.isEmpty)
      (rights.filter fun group =>
        group.name == name && !group.conditions.isEmpty) := by
  refine List.rel_filter ?_ same
  rintro group other ⟨sameName, sameConditions⟩
  simp only [sameName, sameConditions]

private theorem isSome_filledGroup? {lefts rights : List ConditionGroup}
    (same : Outlined lefts rights) (name : String) :
    (filledGroup? lefts name).isSome = (filledGroup? rights name).isSome := by
  have sameLength := (outlined_filled same name).length_eq
  rw [filledGroup?, filledGroup?, ← List.head?_filter, ← List.head?_filter,
    Bool.eq_iff_iff, List.isSome_head?, List.isSome_head?,
    ← List.length_pos_iff, ← List.length_pos_iff, sameLength]

private theorem length_filledGroups {left right : Filter}
    (same : left.SameOutline right) (name : String) :
    (left.filledGroups name).length = (right.filledGroups name).length :=
  (outlined_filled same.groups name).length_eq

/-- The group with every condition of it replaced. -/
private def ConditionGroup.refill (condition : Condition)
    (group : ConditionGroup) : ConditionGroup :=
  { group with conditions := group.conditions.map fun _ => condition }

private theorem outlined_refill (condition : Condition)
    (groups : List ConditionGroup) :
    Outlined (groups.map (ConditionGroup.refill condition)) groups := by
  rw [Outlined, List.forall₂_map_left_iff, List.forall₂_same]
  intro group _
  exact ⟨rfl, List.isEmpty_map⟩

/-- Of groups of one name that have conditions, one that comes later
is not the first. -/
private theorem mem_of_filledGroup? {front back : List ConditionGroup}
    {later group : ConditionGroup} {name : String}
    (earlier : (filledGroup? front later.name).isSome)
    (first : filledGroup? (front ++ later :: back) name = some group) :
    group ∈ front ++ back := by
  unfold filledGroup? at earlier first
  rw [List.find?_append] at first
  cases found : front.find? fun group =>
      group.name == name && !group.conditions.isEmpty with
  | some given =>
      rw [found] at first
      cases first
      exact List.mem_append_left _ (List.mem_of_find?_eq_some found)
  | none =>
      have different : later.name ≠ name := by
        rintro rfl
        rw [found] at earlier
        cases earlier
      rw [found, Option.none_or, List.find?_cons_of_neg (by simp [different])]
          at first
      exact List.mem_append_right _ (List.mem_of_find?_eq_some first)

private theorem exists_repeated {filter : Filter} {name : String}
    (several : ¬ (filter.filledGroups name).length ≤ 1) :
    ∃ front later back, filter.groups = front ++ later :: back ∧
      later.name = name ∧
      later.conditions ≠ [] ∧ (filledGroup? front later.name).isSome := by
  obtain ⟨first, later, others, filled⟩ :
      ∃ first later others,
        filter.filledGroups name = first :: later :: others := by
    match filter.filledGroups name, several with
    | first :: later :: others, _ => exact ⟨first, later, others, rfl⟩
    | [_], several => exact absurd (Nat.le_refl 1) several
    | [], several => exact absurd (Nat.zero_le 1) several
  obtain ⟨before, rest, split, _, isFirst, afterwards⟩ :=
    List.filter_eq_cons_iff.mp filled
  obtain ⟨between, back, rfl, _, isLater, _⟩ :=
    List.filter_eq_cons_iff.mp afterwards
  simp only [Bool.and_eq_true, beq_iff_eq, Bool.not_eq_true',
    List.isEmpty_eq_false_iff] at isFirst isLater
  refine ⟨before ++ first :: between, later,
    back, by simp [split], isLater.1, isLater.2, ?_⟩
  rw [filledGroup?, List.find?_isSome]
  exact ⟨first, by simp, by simp [isFirst, isLater]⟩

namespace Composer

variable {composer : Composer} {table : Option Table}

private theorem exists_group_refill {condition : Condition} {clause : Statement}
    (clauseOk : composer.condition table condition = .ok clause)
    (group : ConditionGroup) :
    ∃ composed,
      composer.group table (group.refill condition) = .ok composed := by
  apply exists_group
  intro other member
  obtain ⟨_, _, rfl⟩ := List.mem_map.mp member
  exact ⟨clause, clauseOk⟩

private theorem params_of_group_eq_nil {group : ConditionGroup}
    {statement : Statement} (unbound : ∀ condition ∈ group.conditions, ∀ clause,
      composer.condition table condition = .ok clause → clause.params = [])
    (composed : composer.group table group = .ok (some statement)) :
    statement.params = [] := by
  obtain ⟨clauses, clausesOk, params⟩ := clauses_of_group composed
  have nothing : clauses.flatMap Statement.params = [] := by
    rw [List.flatMap_eq_nil_iff]
    intro clause member
    obtain ⟨condition, inGroup, clauseOk⟩ :=
      exists_condition_of_composes clausesOk member
    exact unbound condition inGroup clause clauseOk
  simpa [nothing] using params

/-- A condition without parameters. -/
private def bare : Condition := .isNull ""

/-- A condition with a parameter. -/
private def loaded : Condition := .of "" .contains (.string "")

private theorem exists_bare (composer : Composer) (table : Option Table) :
    ∃ clause, composer.condition table bare = .ok clause ∧ clause.params = [] :=
  ⟨_, rfl, by simp⟩

private theorem exists_loaded (composer : Composer) (table : Option Table) :
    ∃ clause, composer.condition table loaded = .ok clause ∧
      clause.params ≠ [] :=
  ⟨_, rfl, by simp⟩

/-- Groups with the same names, of which one alone has conditions
with a parameter. -/
private def marked (front : List ConditionGroup) (later : ConditionGroup)
    (back : List ConditionGroup) : List ConditionGroup :=
  front.map (.refill bare) ++ later.refill loaded :: back.map (.refill bare)

section Marked

variable {front back : List ConditionGroup} {later : ConditionGroup}

private theorem outlined_marked :
    Outlined (marked front later back) (front ++ later :: back) :=
  List.rel_append (outlined_refill bare front)
    (.cons ⟨rfl, List.isEmpty_map⟩ (outlined_refill bare back))

private theorem exists_marked (composer : Composer) (table : Option Table) :
    ∃ composed,
      composer.groups table (marked front later back) = .ok composed := by
  obtain ⟨_, bareOk, _⟩ := exists_bare composer table
  obtain ⟨_, loadedOk, _⟩ := exists_loaded composer table
  apply exists_groups
  simp only [marked, List.forall_mem_append, List.forall_mem_cons,
    List.forall_mem_map]
  exact ⟨fun group _ => exists_group_refill bareOk group,
    exists_group_refill loadedOk later, fun group _ =>
      exists_group_refill bareOk group⟩

/-- With a group of its name before it, the marked group is never the one
that is written. -/
private theorem params_of_marked
    (earlier : (filledGroup? front later.name).isSome) {name : String}
    {group : ConditionGroup} {statement : Statement}
    (first : filledGroup? (marked front later back) name = some group)
    (composed : composer.group table group = .ok (some statement)) :
    statement.params = [] := by
  rw [← isSome_filledGroup? (outlined_refill bare front)] at earlier
  have isLater : (later.refill loaded).name = later.name := rfl
  rw [← isLater] at earlier
  have unmarked := mem_of_filledGroup? earlier first
  rw [← List.map_append] at unmarked
  obtain ⟨given, _, rfl⟩ := List.mem_map.mp unmarked
  refine params_of_group_eq_nil ?_ composed
  intro condition member clause clauseOk
  obtain ⟨_, _, rfl⟩ := List.mem_map.mp member
  obtain ⟨bareClause, bareOk, unbound⟩ := exists_bare composer table
  cases bareOk.symm.trans clauseOk
  exact unbound

end Marked

private theorem params_of_pieces {pieces : List GroupMapPiece}
    {written : String → Statement}
    (unbound : ∀ name, .group name ∈ pieces → (written name).params = []) :
    (Statement.join "" (pieces.map (GroupMapPiece.statement written))).params =
      [] := by
  rw [Statement.params_join, List.flatMap_eq_nil_iff, List.forall_mem_map]
  intro piece member
  cases piece with
  | text copied => exact Statement.params_ofSql copied
  | group name => exact unbound name member

/-- Of several groups of a name that is used, a later one may have the only
parameter, and the predicate has none. -/
private theorem exists_lost {filter : Filter} {template : String}
    {pieces : List GroupMapPiece} {predicate : Statement}
    (mapped : filter.groupMap = some template)
    (present : Text.trim template ≠ "")
    (splits :
      GroupMap.Splits
        (GroupMap.plainNames (filter.groups.map ConditionGroup.name))
        (Text.trim template).toList pieces)
    (composed : composer.filter table filter = .ok predicate) {name : String}
    (named : .group name ∈ pieces)
    (several : ¬ (filter.filledGroups name).length ≤ 1) :
    ∃ other predicate, other.SameOutline filter ∧
      composer.filter table other = .ok predicate ∧
        ¬ composer.KeepsNamed table pieces other predicate := by
  obtain ⟨front, later, back, split, rfl, nonempty, earlier⟩ :=
    exists_repeated several
  let other : Filter := { filter with groups := marked front later back }
  have outline : other.SameOutline filter := ⟨rfl, split ▸ outlined_marked⟩
  have otherMapped : other.groupMap = some template := mapped
  obtain ⟨groups, succeeded⟩ := exists_marked composer table
  have filled : ∀ name, .group name ∈ pieces →
      (filledGroup? other.groups name).isSome := by
    intro name isNamed
    rw [isSome_filledGroup? outline.groups]
    exact filled_of_filter mapped present splits composed name isNamed
  rw [← outline.names_eq] at splits
  obtain ⟨predicate, otherOk⟩ :=
    exists_filter otherMapped present splits succeeded filled
  refine ⟨other, predicate, outline, otherOk, ?_⟩
  intro keeps
  obtain ⟨written, writtenOk, rfl⟩ :=
    written_of_filter otherMapped present splits otherOk
  have unbound := params_of_pieces fun name isNamed => by
    obtain ⟨group, first, groupOk⟩ := writtenOk name isNamed
    exact params_of_marked earlier first groupOk
  have member : loaded ∈ (later.refill loaded).conditions := by
    obtain ⟨condition, inLater⟩ :=
      List.exists_mem_of_ne_nil later.conditions nonempty
    exact List.mem_map.mpr ⟨condition, inLater, rfl⟩
  obtain ⟨clause, clauseOk, before, after, same⟩ :=
    keeps (later.refill loaded) (by simp [other, marked]) named loaded member
  obtain ⟨loadedClause, loadedOk, bound⟩ := exists_loaded composer table
  cases loadedOk.symm.trans clauseOk
  rw [same] at unbound
  simp [bound] at unbound

/-- The conditions of the groups that a group map names are parts of the
predicate, whatever they are, exactly where no name that is used has several
groups with conditions. -/
theorem keepsNamed_iff {filter : Filter} {template : String}
    {pieces : List GroupMapPiece} {predicate : Statement}
    (mapped : filter.groupMap = some template)
    (present : Text.trim template ≠ "")
    (splits :
      GroupMap.Splits
        (GroupMap.plainNames (filter.groups.map ConditionGroup.name))
        (Text.trim template).toList pieces)
    (composed : composer.filter table filter = .ok predicate) :
    (∀ other predicate, other.SameOutline filter →
        composer.filter table other = .ok predicate →
        composer.KeepsNamed table pieces other predicate) ↔
      ∀ name, .group name ∈ pieces → (filter.filledGroups name).length ≤ 1 := by
  constructor
  · intro keeps name named
    by_contra several
    obtain ⟨other, otherPredicate, outline, otherOk, lost⟩ :=
      exists_lost mapped present splits composed named several
    exact lost (keeps other otherPredicate outline otherOk)
  · intro single other otherPredicate outline otherOk
    have otherMapped : other.groupMap = some template :=
      outline.groupMap.trans mapped
    rw [← outline.names_eq] at splits
    refine keepsNamed_of_single otherMapped present splits
      otherOk fun name named => ?_
    rw [length_filledGroups outline]
    exact single name named

/-- Two groups of one name, of which one alone has a condition. -/
theorem keepsNamed_iff_emptyNamesake :
    let composer : Composer := ⟨.sqlite, ⟨none, none⟩⟩
    let groups : List ConditionGroup :=
      [⟨"a", [.of "n" .equal (.integer 1), .of "n" .equal (.integer 2)]⟩,
        ⟨"b", []⟩, ⟨"b", [.of "m" .equal (.integer 3)]⟩]
    let filter : Filter :=
      { Filter.empty with groups, groupMap := some " :a: AND :b: " }
    let pieces : List GroupMapPiece :=
      [.text "", .group "a", .text " AND ", .group "b", .text ""]
    let predicate : Statement :=
      .ofPieces [.text "(n = ", .param (.integer 1), .text " AND n = ",
        .param (.integer 2), .text ") AND (m = ",
        .param (.integer 3), .text ")"]
    composer.filter none filter = .ok predicate ∧
      composer.KeepsNamed none pieces filter predicate := by
  intro composer groups filter pieces predicate
  have text : (Text.trim " :a: AND :b: ").toList = [] ++ ':' :: ("a".toList ++
      ':' :: (" AND ".toList ++ ':' :: ("b".toList ++ ':' :: []))) := by
    decide +kernel
  have splits : GroupMap.Splits
      (GroupMap.plainNames (filter.groups.map ConditionGroup.name))
      (Text.trim " :a: AND :b: ").toList pieces := by
    rw [text]
    refine .token (by decide) .nil
      (.token (by decide) (.append_plain .nil (by decide)) (.last fun _ =>
        GroupMap.not_tokenAt_of_plain List.not_mem_nil))
  have single : ∀ name, .group name ∈ pieces →
      (filter.filledGroups name).length ≤ 1 := by
    intro name named
    obtain rfl | rfl : name = "a" ∨ name = "b" := by simpa [pieces] using named
    · decide
    · decide
  have composed : composer.filter none filter = .ok predicate := by
    decide +kernel
  have outline : filter.SameOutline filter :=
    ⟨rfl, List.forall₂_same.mpr fun _ _ => ⟨rfl, rfl⟩⟩
  have present : Text.trim " :a: AND :b: " ≠ "" := by decide +kernel
  exact ⟨composed, (keepsNamed_iff rfl present splits composed).mpr single
    filter predicate outline composed⟩

/-- Of two groups of one name the second is lost. -/
theorem not_keepsNamed_namesakes :
    let composer : Composer := ⟨.sqlite, ⟨none, none⟩⟩
    let groups : List ConditionGroup :=
      [⟨"g", [.of "a" .equal (.integer 1)]⟩,
        ⟨"g", [.of "b" .equal (.integer 2)]⟩]
    let filter : Filter := { Filter.empty with groups, groupMap := some ":g:" }
    let pieces : List GroupMapPiece := [.text "", .group "g", .text ""]
    let predicate : Statement :=
      .ofPieces [.text "(a = ", .param (.integer 1), .text ")"]
    GroupMap.Splits (GroupMap.plainNames ["g", "g"]) ":g:".toList pieces ∧
      composer.filter none filter = .ok predicate ∧
        ¬ composer.KeepsNamed none pieces filter predicate := by
  intro composer groups filter pieces predicate
  have cut : GroupMap.Splits (GroupMap.plainNames ["g", "g"])
      ([] ++ ':' :: ("g".toList ++ ':' :: [])) pieces :=
    .token (by decide) .nil
      (.last fun _ => GroupMap.not_tokenAt_of_plain List.not_mem_nil)
  refine ⟨cut, by decide +kernel, ?_⟩
  intro keeps
  obtain ⟨clause, clauseOk, before, after, same⟩ :=
    keeps ⟨"g", [.of "b" .equal (.integer 2)]⟩ (by simp [filter, groups])
      (by simp [pieces]) (.of "b" .equal (.integer 2)) List.mem_cons_self
  have bound : clause.params = [.integer 2] := by
    cases clauseOk
    simp
  have params := congrArg Statement.params same
  rw [Statement.params_append, Statement.params_append, bound] at params
  have own : predicate.params = [.integer 1] := by decide +kernel
  have second : Param.integer 2 ∈ predicate.params := by simp [params]
  simp [own] at second

end Composer

end RecordSql
