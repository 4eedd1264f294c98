import Mathlib.Data.List.Induction
import Mathlib.Data.List.Nodup

/-!
# Mentions of names

What is added under names, one after another, can be read off in two
ways: the names, each where it is mentioned first, and what is mentioned
under one of them.
-/

namespace RecordSql.Mentions

variable {α : Type} {mentions : List (String × α)} {name : String}

/-- The names in the order of their first mention. -/
def names (mentions : List (String × α)) : List String :=
  (mentions.map Prod.fst).eraseDups

/-- What is mentioned under a name, in order. -/
def under (name : String) (mentions : List (String × α)) : List α :=
  (mentions.filter fun mention => mention.1 == name).map Prod.snd

theorem names_concat (mentions : List (String × α)) (last : String × α) :
    names (mentions ++ [last]) =
      if last.1 ∈ names mentions then names mentions
      else names mentions ++ [last.1] := by
  have cut : names (mentions ++ [last]) =
      names mentions ++
        ([last.1].removeAll (mentions.map Prod.fst)).eraseDups := by
    rw [names, List.map_append, List.eraseDups_append]
    rfl
  rw [cut]
  split
  · next mentioned =>
      have earlier : last.1 ∈ mentions.map Prod.fst :=
        List.mem_eraseDups.mp mentioned
      simp [List.removeAll, earlier]
  · next new =>
      have fresh : last.1 ∉ mentions.map Prod.fst :=
        mt List.mem_eraseDups.mpr new
      simp [List.removeAll, fresh, List.eraseDups_cons]

theorem nodup_names (mentions : List (String × α)) :
    (names mentions).Nodup := by
  induction mentions using List.reverseRecOn with
  | nil => exact .nil
  | append_singleton mentions last induction =>
      rw [names_concat]
      split
      · exact induction
      · next new => exact List.concat_eq_append ▸ induction.concat new

theorem under_concat (name : String) (mentions : List (String × α))
    (last : String × α) : under name (mentions ++ [last]) =
      under name mentions ++ if last.1 = name then [last.2] else [] := by
  rw [under, List.filter_append, List.map_append, ← under]
  split
  · next same => simp [same]
  · next other => simp [other]

theorem mem_under_iff {value : α} :
    value ∈ under name mentions ↔ (name, value) ∈ mentions := by
  simp [under]

theorem mem_names_iff : name ∈ names mentions ↔ under name mentions ≠ [] := by
  simp [names, under, List.mem_eraseDups]

end RecordSql.Mentions
