import RecordSql.Proofs.Filter.Building
import RecordSql.Proofs.Predicate.Groups
import RecordSql.Proofs.Statement.Literal

/-!
# The clauses of filters

A filter is composed from one clause for each of its conditions.  Without a
group map the clauses come group by group, so what is bound are the parameters
of the conditions in the order in which the filter has them.
-/

namespace RecordSql

/-- There is no group map, or a blank one, so that the groups are
alternatives. -/
def Filter.Untemplated (filter : Filter) : Prop :=
  ∀ template ∈ filter.groupMap, Text.trim template = ""

namespace Composer

/-- A filter is composed if its conditions are, and binds their parameters
in their order. -/
structure BindsInOrder (composer : Composer) (table : Option Table)
    (filter : Filter) (conditions : List Condition) : Prop where
  accepted : (∃ statement, composer.filter table filter = .ok statement) ↔
    ∀ condition ∈ conditions, ∃ clause,
      composer.condition table condition = .ok clause
  params : ∀ statement, composer.filter table filter = .ok statement →
    ∃ clauses, composer.Composes table conditions clauses ∧
      statement.params = clauses.flatMap Statement.params

variable {composer : Composer} {table : Option Table} {filter : Filter}
  {statement : Statement}

section Untemplated

variable (untemplated : filter.Untemplated)

include untemplated

private theorem filter_eq_join (composer : Composer) (table : Option Table) :
    composer.filter table filter =
      (fun composed =>
        Statement.join " OR " (composed.map ComposedGroup.statement)) <$>
        composer.groups table filter.groups := by
  have nothing : (filter.groupMap.map Text.trim).getD "" = "" := by
    cases mapped : filter.groupMap with
    | none => rfl
    | some template => exact untemplated template mapped
  unfold Composer.filter
  simp only [nothing, ne_eq, not_true, if_false]
  exact bind_pure_comp _ _

theorem exists_filter_iff :
    (∃ statement, composer.filter table filter = .ok statement) ↔
      ∀ condition ∈ filter.groups.flatMap ConditionGroup.conditions,
        ∃ clause, composer.condition table condition = .ok clause := by
  constructor
  · rintro ⟨statement, composed⟩
    rw [filter_eq_join untemplated] at composed
    obtain ⟨groups, groupsOk, _⟩ := Outcome.map_eq_ok_iff.mp composed
    obtain ⟨clauses, clausesOk, _⟩ := clauses_of_groups groupsOk
    exact exists_composes_iff.mp ⟨clauses, clausesOk⟩
  · intro allOk
    obtain ⟨groups, groupsOk⟩ := exists_groups fun group member =>
      exists_group fun condition inGroup =>
        allOk condition (List.mem_flatMap_of_mem member inGroup)
    exact ⟨_, (filter_eq_join untemplated composer table).trans
      (Outcome.map_eq_ok_iff.mpr ⟨groups, groupsOk, rfl⟩)⟩

theorem clauses_of_filter
    (composed : composer.filter table filter = .ok statement) :
    ∃ clauses, composer.Composes table
        (filter.groups.flatMap ConditionGroup.conditions) clauses ∧
      statement.params = clauses.flatMap Statement.params := by
  rw [filter_eq_join untemplated] at composed
  obtain ⟨groups, groupsOk, rfl⟩ := Outcome.map_eq_ok_iff.mp composed
  obtain ⟨clauses, clausesOk, params⟩ := clauses_of_groups groupsOk
  exact ⟨clauses, clausesOk, (Statement.params_join " OR " _).trans params⟩

end Untemplated

/-- However a filter is built, it gathers the conditions under the names that
they were added under, and without a group map it binds their parameters
group by group, in the order in which the names were used first and the
conditions were added. -/
theorem bindsInOrder (composer : Composer) (table : Option Table)
    (steps : List Filter.Step) :
    (Filter.ofSteps steps).Gathers (Filter.additions steps) ∧
      ((Filter.ofSteps steps).Untemplated →
        composer.BindsInOrder table (Filter.ofSteps steps)
          ((Mentions.names (Filter.additions steps)).flatMap fun name =>
            Mentions.under name (Filter.additions steps))) := by
  refine ⟨Filter.gathers_ofSteps steps, fun untemplated => ?_⟩
  have inOrder :
      (Filter.ofSteps steps).groups.flatMap ConditionGroup.conditions =
        (Mentions.names (Filter.additions steps)).flatMap fun name =>
        Mentions.under name (Filter.additions steps) := by
    rw [Filter.groups_ofSteps, Filter.grouped, List.flatMap_map]
  rw [← inOrder]
  exact ⟨exists_filter_iff untemplated, fun _ => clauses_of_filter untemplated⟩

/-- Two groups that are added to in turns, with a blank group map and steps
that add nothing. -/
theorem bindsInOrder_inTurns :
    let composer : Composer := ⟨.sqlite, ⟨none, none⟩⟩
    let known : Condition := .of "x" .equal (.integer 1)
    let window : Condition := .between "z" (.integer 2) (.integer 3)
    let steps : List Filter.Step :=
      [.addTo "b" known, .limit 5, .add (.isNull "y"), .sortBy "x" .descending,
        .addTo "b" window, .groupMap "  ",
        .whenever "w" .contains (.string "t")]
    let filter : Filter := .ofSteps steps
    let composed : Statement :=
      .ofPieces [.text "(x = ", .param (.integer 1), .text " AND z BETWEEN ",
        .param (.integer 2), .text " AND ", .param (.integer 3),
        .text ") OR (y IS NULL AND w LIKE ", .param (.text "%t%"), .text ")"]
    filter.Untemplated ∧ composer.filter none filter = .ok composed ∧
      filter.groups.map ConditionGroup.name = ["b", "default"] ∧
      filter.group? "b" = some ⟨"b", [known, window]⟩ ∧
      filter.hasConditions = true ∧
      ∃ clauses, composer.Composes
          none [known, window, .isNull "y", .of "w" .contains (.string "t")]
          clauses ∧
        composed.params = clauses.flatMap Statement.params := by
  intro composer known window steps filter composed
  have untemplated : filter.Untemplated := by
    intro template mapped
    obtain rfl : "  " = template := Option.some.inj mapped
    decide +kernel
  have composedOk : composer.filter none filter = .ok composed := by
    decide +kernel
  obtain ⟨gathers, binds⟩ := bindsInOrder composer none steps
  exact ⟨untemplated, composedOk, gathers.order.trans (by decide +kernel),
    (gathers.found "b").trans (by decide +kernel),
    gathers.conditional.mpr (by decide +kernel),
    (binds untemplated).params composed composedOk⟩

end Composer

end RecordSql
