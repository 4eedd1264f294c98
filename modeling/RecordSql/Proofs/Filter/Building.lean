import RecordSql.Filter
import RecordSql.Proofs.Mentions

/-!
# Filters that are built step by step

Conditions are added under the names of groups, in between steps that order,
group, limit or map. However the steps are mixed, the filter has one group for
each name, in the order in which the names were used first, with the conditions
that were added under it in their order.
-/

namespace RecordSql.Filter

/-- A step in which a filter is built. -/
inductive Step where
  | add (condition : Condition)
  | addTo (name : String) (condition : Condition)
  | whenever (field : String) (operator : Operator) (operand : Value)
  | groupMap (template : String)
  | sortBy (field : String) (direction : Direction)
  | groupedBy (field : String)
  | limit (limit : Int64)
  | offset (offset : Int64)

def after (filter : Filter) : Step → Filter
  | .add condition => filter.add condition
  | .addTo name condition => filter.addTo name condition
  | .whenever field operator operand => filter.whenever field operator operand
  | .groupMap template => filter.withGroupMap template
  | .sortBy field direction => filter.sortBy field direction
  | .groupedBy field => filter.groupedBy field
  | .limit limit => filter.withLimit limit
  | .offset offset => filter.withOffset offset

/-- The filter that is built in some steps, of nothing to begin with. -/
def ofSteps (steps : List Step) : Filter :=
  steps.foldl after empty

/-- The condition that a step adds, with the name that it is added under. -/
def Step.addition? : Step → Option (String × Condition)
  | .add condition => some (defaultGroup, condition)
  | .addTo name condition => some (name, condition)
  | .whenever field operator operand =>
      some (defaultGroup, .of field operator operand)
  | .groupMap _ | .sortBy _ _ | .groupedBy _ | .limit _ | .offset _ => none

def additions (steps : List Step) : List (String × Condition) :=
  steps.filterMap Step.addition?

/-- One group for each name, with the conditions that are added under it. -/
def grouped (additions : List (String × Condition)) : List ConditionGroup :=
  (Mentions.names additions).map fun name =>
    ⟨name, Mentions.under name additions⟩

/-- A filter has the conditions that were added, each once, and puts them in
groups by name. -/
structure Gathers (filter : Filter)
    (additions : List (String × Condition)) : Prop where
  distinct : (filter.groups.map ConditionGroup.name).Nodup
  order : filter.groups.map ConditionGroup.name = Mentions.names additions
  conditions : ∀ group ∈ filter.groups,
    group.conditions = Mentions.under group.name additions
  found : ∀ name, filter.group? name =
    if Mentions.under name additions = [] then none
    else some ⟨name, Mentions.under name additions⟩
  whole : (filter.groups.flatMap ConditionGroup.conditions).Perm
    (additions.map Prod.snd)
  conditional : filter.hasConditions = true ↔ additions ≠ []

variable {filter : Filter} {groups : List ConditionGroup}
  {additions : List (String × Condition)} {name : String}
  {condition : Condition}

/-- Whatever groups there are, no condition is lost or counted twice. -/
theorem perm_addToGroups :
    ((addToGroups name condition groups).flatMap ConditionGroup.conditions).Perm
      (groups.flatMap ConditionGroup.conditions ++ [condition]) := by
  induction groups with
  | nil => exact .refl _
  | cons group groups induction =>
      rw [addToGroups]
      split
      · simp only [List.flatMap_cons, List.append_assoc]
        exact List.perm_append_comm.append_left _
      · simp only [List.flatMap_cons, List.append_assoc]
        exact induction.append_left _

private theorem addToGroups_of_new
    (new : name ∉ groups.map ConditionGroup.name) :
    addToGroups name condition groups = groups ++ [⟨name, [condition]⟩] := by
  induction groups with
  | nil => rfl
  | cons group groups induction =>
      rw [List.map_cons, List.mem_cons, not_or] at new
      rw [addToGroups, if_neg (Ne.symm new.1), induction new.2,
        List.cons_append]

section Named

variable {names : List String} (held : String → List Condition)

private theorem map_of_absent (absent : name ∉ names) :
    (names.map fun other =>
        (⟨other, held other ++ if name = other then [condition] else []⟩ :
          ConditionGroup)) =
      names.map fun other => ⟨other, held other⟩ := by
  refine List.map_congr_left fun other member => ?_
  have different : name ≠ other := fun same => absent (same ▸ member)
  rw [if_neg different, List.append_nil]

/-- With names that are told apart, a condition comes to the one
group of its name. -/
private theorem addToGroups_of_used (distinct : names.Nodup)
    (used : name ∈ names) :
    addToGroups name condition (names.map fun other => ⟨other, held other⟩) =
      names.map fun other =>
        ⟨other, held other ++ if name = other then [condition] else []⟩ := by
  induction names with
  | nil => cases used
  | cons first names induction =>
      rw [List.nodup_cons] at distinct
      rw [List.map_cons, addToGroups, List.map_cons]
      by_cases same : first = name
      · subst same
        rw [if_pos rfl, if_pos rfl, map_of_absent held distinct.1]
      · have later := (List.mem_cons.mp used).resolve_left (Ne.symm same)
        rw [if_neg same, if_neg (Ne.symm same), List.append_nil,
          induction distinct.2 later]

end Named

/-- What is grouped takes in an addition as the groups do. -/
theorem addToGroups_grouped (additions : List (String × Condition))
    (last : String × Condition) :
    addToGroups last.1 last.2 (grouped additions) =
      grouped (additions ++ [last]) := by
  simp only [grouped, Mentions.names_concat, Mentions.under_concat]
  split
  · next used =>
      exact addToGroups_of_used _ (Mentions.nodup_names additions) used
  · next new =>
      have nothing : Mentions.under last.1 additions = [] :=
        not_not.mp (mt Mentions.mem_names_iff.mpr new)
      rw [addToGroups_of_new (by simpa using new), List.map_append,
        map_of_absent _ new]
      simp [nothing]

theorem groups_after (filter : Filter) (step : Step) :
    (filter.after step).groups =
      step.addition?.elim filter.groups fun addition =>
        addToGroups addition.1 addition.2 filter.groups := by
  cases step <;> rfl

private theorem additions_concat (steps : List Step) (last : Step) :
    Filter.additions (steps ++ [last]) =
      Filter.additions steps ++ last.addition?.toList := by
  rw [Filter.additions, List.filterMap_append]
  cases added : last.addition? <;> simp [added, Filter.additions]

/-- The last step acts on the groups of all others, so the steps are taken from
the end. -/
theorem groups_ofSteps (steps : List Step) :
    (ofSteps steps).groups = grouped (Filter.additions steps) := by
  induction steps using List.reverseRecOn with
  | nil => rfl
  | append_singleton steps last induction =>
      have continued : ofSteps (steps ++ [last]) =
          (ofSteps steps).after last := by
        rw [ofSteps, List.foldl_append]
        rfl
      rw [continued, groups_after, induction, additions_concat]
      cases last.addition? with
      | none => simp
      | some addition =>
          exact addToGroups_grouped (Filter.additions steps) addition

theorem perm_grouped (additions : List (String × Condition)) :
    ((grouped additions).flatMap ConditionGroup.conditions).Perm
      (additions.map Prod.snd) := by
  induction additions using List.reverseRecOn with
  | nil => exact .refl _
  | append_singleton additions last induction =>
      rw [← addToGroups_grouped, List.map_append]
      exact perm_addToGroups.trans (induction.append_right _)

theorem hasConditions_iff :
    filter.hasConditions = true ↔
      filter.groups.flatMap ConditionGroup.conditions ≠ [] := by
  simp [hasConditions]

theorem gathers_of_grouped (groups : filter.groups = grouped additions) :
    filter.Gathers additions := by
  have order : filter.groups.map ConditionGroup.name =
      Mentions.names additions := by
    simp [groups, grouped, Function.comp_def]
  have conditions : ∀ group ∈ filter.groups,
      group.conditions = Mentions.under group.name additions := by
    rw [groups]
    intro group member
    obtain ⟨name, _, rfl⟩ := List.mem_map.mp member
    rfl
  have whole : (filter.groups.flatMap ConditionGroup.conditions).Perm
      (additions.map Prod.snd) := groups ▸ perm_grouped additions
  refine ⟨order ▸ Mentions.nodup_names additions, order, conditions, ?found,
    whole, ?conditional⟩
  case found =>
    intro name
    cases found : filter.group? name with
    | none =>
        have absent : name ∉ filter.groups.map ConditionGroup.name := by
          simpa [group?] using found
        rw [order, Mentions.mem_names_iff, not_not] at absent
        rw [if_pos absent]
    | some group =>
        have member : group ∈ filter.groups := List.mem_of_find?_eq_some found
        obtain rfl : group.name = name := by simpa using List.find?_some found
        have used : group.name ∈ Mentions.names additions :=
          order ▸ List.mem_map_of_mem member
        rw [if_neg (Mentions.mem_names_iff.mp used), ← conditions group member]
  case conditional =>
    rw [hasConditions_iff, ← List.length_pos_iff, whole.length_eq,
      List.length_map, List.length_pos_iff]

theorem gathers_ofSteps (steps : List Step) :
    (ofSteps steps).Gathers (Filter.additions steps) :=
  gathers_of_grouped (groups_ofSteps steps)

end RecordSql.Filter
