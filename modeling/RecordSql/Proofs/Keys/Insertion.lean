import Mathlib.Data.Finset.Card
import Mathlib.Data.Finset.Dedup
import RecordSql.Proofs.Mentions
import RecordSql.Record

/-!
# Keys in the order of insertion

Keys are made step by step.  However often a name is given, it is held once,
where it was given first, and with the value that was given last.
-/

namespace RecordSql.Keys

/-- A step in which keys are made. -/
inductive Step where
  /-- Gives a key a value, by an insertion or in a chain of additions. -/
  | insert (name : String) (value : Value)
  /-- Puts keys together from entries, in place of those there are. -/
  | collect (entries : List (String × Value))

def after (keys : Keys) : Step → Keys
  | .insert name value => keys.insert name value
  | .collect entries => ofList entries

/-- The keys that are made in some steps, of none to begin with. -/
def ofSteps (steps : List Step) : Keys :=
  steps.foldl after empty

/-- What has been given after a step. -/
def givenAfter (given : List (String × Value)) : Step → List (String × Value)
  | .insert name value => given ++ [(name, value)]
  | .collect entries => entries

/-- The entries that are given in some steps, from the last collection on. -/
def given (steps : List Step) : List (String × Value) :=
  steps.foldl givenAfter []

/-- Keys hold what was given: each name once, where it was given first, with
the last value. -/
structure Holds (keys : Keys) (given : List (String × Value)) : Prop where
  distinct : (keys.entries.map Prod.fst).Nodup
  order : keys.entries.map Prod.fst = Mentions.names given
  last : ∀ entry ∈ keys.entries,
    (Mentions.under entry.1 given).getLast? = some entry.2
  length : keys.entries.length = (given.map Prod.fst).toFinset.card
  found : ∀ name, keys.get? name = (Mentions.under name given).getLast?

variable {keys : Keys} {entries given : List (String × Value)}
  {name other : String} {value : Value}

theorem get?_insert :
    (keys.insert name value).get? other =
      if name = other then some value else keys.get? other := by
  simp only [insert, get?]
  induction keys.entries with
  | nil => by_cases same : name = other <;> simp [insertEntry, same]
  | cons first entries induction =>
      rw [insertEntry]
      by_cases here : first.1 = name
      · by_cases same : name = other <;> simp [here, same]
      · rw [if_neg here, List.find?_cons, List.find?_cons]
        split
        · next found =>
            have different : name ≠ other := fun same =>
              here ((beq_iff_eq.mp found).trans same.symm)
            rw [if_neg different]
        · exact induction

theorem get?_of_mem (member : (name, value) ∈ keys.entries) :
    keys.get? name = some value := by
  obtain ⟨entries, distinct⟩ := keys
  simp only [get?] at *
  induction entries with
  | nil => cases member
  | cons first entries induction =>
      rw [List.map_cons, List.nodup_cons] at distinct
      rcases List.mem_cons.mp member with rfl | later
      · simp
      · have different : first.1 ≠ name := by
          rintro rfl
          exact distinct.1 (List.mem_map.mpr ⟨_, later, rfl⟩)
        simpa [different] using induction distinct.2 later

namespace Holds

theorem mem_names_iff (holds : keys.Holds given) :
    name ∈ keys.entries.map Prod.fst ↔ name ∈ given.map Prod.fst := by
  rw [holds.order, Mentions.names, List.mem_eraseDups]

theorem entries_eq_nil_iff (holds : keys.Holds given) :
    keys.entries = [] ↔ given = [] := by
  rw [← List.map_eq_nil_iff (f := Prod.fst), List.eq_nil_iff_forall_not_mem]
  simp only [holds.mem_names_iff]
  rw [← List.eq_nil_iff_forall_not_mem, List.map_eq_nil_iff]

/-- A test of names may be made on what was given. -/
theorem forall_name_iff (holds : keys.Holds given) (test : String → Prop) :
    (∀ entry ∈ keys.entries, test entry.1) ↔ ∀ entry ∈ given, test entry.1 := by
  have onNames : ∀ entries : List (String × Value),
      (∀ entry ∈ entries, test entry.1) ↔
        ∀ name ∈ entries.map Prod.fst, test name := by simp
  simp only [onNames, holds.mem_names_iff]

end Holds

/-- The order and the look-up decide all that keys hold. -/
theorem holds_of_order
    (order : keys.entries.map Prod.fst = Mentions.names given)
    (found : ∀ name, keys.get? name = (Mentions.under name given).getLast?) :
    keys.Holds given := by
  refine ⟨keys.distinct, order, ?_, ?_, found⟩
  · rintro ⟨name, value⟩ member
    rw [← found, get?_of_mem member]
  · have sameNames : (keys.entries.map Prod.fst).toFinset =
        (given.map Prod.fst).toFinset := by
      ext name
      rw [order, List.mem_toFinset, List.mem_toFinset, Mentions.names,
        List.mem_eraseDups]
    rw [← sameNames, List.toFinset_card_of_nodup keys.distinct, List.length_map]

theorem holds_empty : empty.Holds [] :=
  holds_of_order rfl fun _ => rfl

theorem Holds.insert (holds : keys.Holds given) (name : String)
    (value : Value) :
    (keys.insert name value).Holds (given ++ [(name, value)]) := by
  refine holds_of_order ?_ fun other => ?_
  · rw [Mentions.names_concat, ← holds.order]
    exact names_insertEntry
  · rw [get?_insert, Mentions.under_concat, List.getLast?_append, holds.found]
    split
    · rfl
    · rfl

theorem holds_ofList (entries : List (String × Value)) :
    (ofList entries).Holds entries := by
  induction entries using List.reverseRecOn with
  | nil => exact holds_empty
  | append_singleton entries last induction =>
      rw [ofList, List.foldl_append]
      exact induction.insert last.1 last.2

theorem Holds.after (holds : keys.Holds given) (step : Step) :
    (keys.after step).Holds (givenAfter given step) := by
  cases step with
  | insert name value => exact holds.insert name value
  | collect entries => exact holds_ofList entries

theorem holds_ofSteps (steps : List Step) :
    (ofSteps steps).Holds (Keys.given steps) := by
  induction steps using List.reverseRecOn with
  | nil => exact holds_empty
  | append_singleton steps last induction =>
      rw [ofSteps, Keys.given, List.foldl_append, List.foldl_append]
      exact induction.after last

end RecordSql.Keys
