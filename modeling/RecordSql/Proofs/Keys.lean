import RecordSql.Proofs.Keys.Insertion

/-!
# Putting keys together

Keys made from a list of entries have the names of the list, each once, and a
test of the names may be made before or after.
-/

namespace RecordSql.Keys

variable {entries : List (String × Value)} {keep : String → Bool}
  {name : String} {value : Value}

private theorem entries_ofList_concat (entry : String × Value) :
    (ofList (entries ++ [entry])).entries =
      insertEntry entry.1 entry.2 (ofList entries).entries := by
  rw [ofList, List.foldl_append]
  rfl

theorem mem_of_mem_ofList {entry : String × Value}
    (member : entry ∈ (ofList entries).entries) : entry ∈ entries := by
  have last := (holds_ofList entries).last entry member
  exact Mentions.mem_under_iff.mp (List.mem_of_getLast? last)

theorem forall_names_ofList (test : String → Prop) :
    (∀ entry ∈ (ofList entries).entries, test entry.1) ↔
      ∀ entry ∈ entries, test entry.1 :=
  (holds_ofList entries).forall_name_iff test

theorem exists_mem_ofList (member : (name, value) ∈ entries) :
    ∃ other, (name, other) ∈ (ofList entries).entries := by
  by_contra absent
  have different : ∀ entry ∈ (ofList entries).entries, entry.1 ≠ name := by
    rintro ⟨_, other⟩ isKey rfl
    exact absent ⟨other, isKey⟩
  exact (forall_names_ofList fun other => other ≠ name).mp different
    _ member rfl

private theorem insertEntry_of_mem (member : (name, value) ∈ entries)
    (single : ∀ entry ∈ entries, entry.1 = name → entry.2 = value) :
    insertEntry name value entries = entries := by
  induction entries with
  | nil => cases member
  | cons first entries induction =>
      obtain ⟨firstSingle, restSingle⟩ := List.forall_mem_cons.mp single
      rw [insertEntry]
      split
      · next same =>
          rw [← firstSingle same, ← same]
      · next other =>
          have later : (name, value) ∈ entries := by
            rcases List.mem_cons.mp member with rfl | later
            · exact absurd rfl other
            · exact later
          rw [induction later restSingle]

private theorem insertEntry_of_absent
    (absent : ∀ entry ∈ entries, entry.1 ≠ name) :
    insertEntry name value entries = entries ++ [(name, value)] := by
  induction entries with
  | nil => rfl
  | cons first entries induction =>
      obtain ⟨different, restAbsent⟩ := List.forall_mem_cons.mp absent
      rw [insertEntry, if_neg different, induction restAbsent, List.cons_append]

/-- If entries of one name have one value, keys are their entries
without repetitions. -/
theorem entries_ofList_of_single
    (single : ∀ first ∈ entries, ∀ second ∈ entries, first.1 = second.1 →
      first.2 = second.2) : (ofList entries).entries = entries.eraseDups := by
  induction entries using List.reverseRecOn with
  | nil => rfl
  | append_singleton entries last induction =>
      have earlierSingle : ∀ first ∈ entries, ∀ second ∈ entries,
          first.1 = second.1 →
            first.2 = second.2 := fun first inEntries second alsoInEntries =>
        single first (List.mem_append_left _ inEntries) second
          (List.mem_append_left _ alsoInEntries)
      have lastSingle : ∀ entry ∈ entries, entry.1 = last.1 →
          entry.2 = last.2 :=
        fun entry inEntries =>
          single entry (List.mem_append_left _ inEntries) last (by simp)
      rw [entries_ofList_concat, induction earlierSingle, List.eraseDups_append]
      by_cases repeated : last ∈ entries
      · rw [insertEntry_of_mem
            (List.mem_eraseDups.mpr repeated) fun entry member =>
          lastSingle entry (List.mem_eraseDups.mp member)]
        simp [List.removeAll, repeated]
      · have absent : ∀ entry ∈ entries.eraseDups, entry.1 ≠ last.1 := by
          intro entry member sameName
          have inEntries := List.mem_eraseDups.mp member
          have same : entry = last :=
            Prod.ext sameName (lastSingle entry inEntries sameName)
          exact repeated (same ▸ inEntries)
        rw [insertEntry_of_absent absent]
        simp [List.removeAll, repeated, List.eraseDups_cons]

/-- The keys whose names pass a test. -/
def only (keys : Keys) (keep : String → Bool) : Keys :=
  ⟨keys.entries.filter fun entry => keep entry.1,
    keys.distinct.sublist (List.filter_sublist.map _)⟩

private theorem filter_insertEntry (entries : List (String × Value)) :
    (insertEntry name value entries).filter (fun entry => keep entry.1) =
      if keep name then
      insertEntry name value (entries.filter fun entry => keep entry.1)
      else entries.filter fun entry => keep entry.1 := by
  induction entries with
  | nil => by_cases kept : keep name <;> simp [insertEntry, kept]
  | cons entry entries induction =>
      by_cases same : entry.1 = name
      · by_cases kept : keep name <;> simp [insertEntry, same, kept]
      · by_cases kept : keep name <;> by_cases keptEntry : keep entry.1 <;>
          simp [insertEntry, same, kept, keptEntry, induction]

theorem only_insert (keys : Keys) :
    (keys.insert name value).only keep =
      if keep name then (keys.only keep).insert name value
      else keys.only keep := by
  simp only [only, insert, filter_insertEntry]
  split <;> rfl

/-- A test of names may be made before keys are put together. -/
theorem only_ofList (entries : List (String × Value)) :
    (ofList entries).only keep =
      ofList (entries.filter fun entry => keep entry.1) := by
  have folded : ∀ (entries : List (String × Value)) (keys : Keys),
      (entries.foldl (fun keys entry => keys.insert entry.1 entry.2) keys).only
          keep =
        (entries.filter fun entry => keep entry.1).foldl
          (fun keys entry => keys.insert entry.1 entry.2) (keys.only keep) := by
    intro entries
    induction entries with
    | nil => intro keys; rfl
    | cons entry entries induction =>
        intro keys
        rw [List.foldl_cons, induction, only_insert]
        by_cases kept : keep entry.1 <;> simp [kept]
  exact folded entries empty

end RecordSql.Keys
