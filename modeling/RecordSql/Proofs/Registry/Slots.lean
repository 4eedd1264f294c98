import Mathlib.Data.List.Nodup
import RecordSql.Registry

/-!
# What the registry's operations change

A registry is seen through two questions: which slot a name has, and what a slot
holds. For each operation it is said here how the two answers change.
-/

namespace RecordSql

theorem SlotContent.table?_eq_some_iff {content : SlotContent} {table : Table} :
    content.table? = some table ↔ content = .filled table := by
  cases content <;> simp [table?]

namespace Registry

variable {registry : Registry} {name other : String} {slot place : Nat}

theorem content_of_length_le (beyond : registry.slots.length ≤ slot) :
    registry.content slot = .vacant := by
  simp [content, List.getElem?_eq_none beyond]

theorem claim_of_slotOf? (known : registry.slotOf? name = some slot) :
    registry.claim name = (slot, registry) := by
  simp only [claim, known]

theorem claim_of_slotOf?_eq_none (unknown : registry.slotOf? name = none) :
    (registry.claim name).1 = registry.slots.length := by
  simp only [claim, unknown]

theorem slotOf?_claim :
    (registry.claim name).2.slotOf? other =
      if other = name then some (registry.claim name).1
      else registry.slotOf? other := by
  cases known : registry.slotOf? name with
  | some slot =>
      rw [claim_of_slotOf? known]
      split
      · next same => rw [same, known]
      · rfl
  | none =>
      have absent :
          registry.names.find? (fun entry => entry.1 == name) = none := by
        simpa [slotOf?] using known
      simp only [claim, known]
      rw [slotOf?, List.find?_append, List.find?_singleton]
      by_cases same : other = name
      · simp [same, absent]
      · simp [same, Ne.symm same, slotOf?]

@[simp] theorem content_claim :
    (registry.claim name).2.content slot = registry.content slot := by
  unfold claim
  split
  · rfl
  · rcases Nat.lt_trichotomy slot registry.slots.length with
      inside | last | outside
    · simp only [content, List.getElem?_append_left inside]
    · simp [content, last]
    · rw [content_of_length_le (by simpa using Nat.succ_le_of_lt outside),
        content_of_length_le (Nat.le_of_lt outside)]

theorem length_slots_claim :
    registry.slots.length ≤ (registry.claim name).2.slots.length := by
  unfold claim
  split <;> simp

theorem claim_lt
    (made : ∀ slot, registry.slotOf? name = some slot →
      slot < registry.slots.length) :
    (registry.claim name).1 < (registry.claim name).2.slots.length := by
  cases known : registry.slotOf? name with
  | some slot =>
      rw [claim_of_slotOf? known]
      exact made slot known
  | none => simp [claim, known]

@[simp] theorem length_slots_put {content : SlotContent} :
    (registry.put slot content).slots.length = registry.slots.length :=
  List.length_set

theorem content_put_self {content : SlotContent}
    (made : slot < registry.slots.length) :
    (registry.put slot content).content slot = content := by
  simp [put, Registry.content, made]

theorem content_put_of_ne {content : SlotContent} (different : place ≠ slot) :
    (registry.put slot content).content place = registry.content place := by
  simp [put, Registry.content, Ne.symm different]

@[simp] theorem content_evict :
    (registry.evict name slot).content place = registry.content place := by
  unfold evict
  split <;> rfl

@[simp] theorem length_slots_evict :
    (registry.evict name slot).slots.length = registry.slots.length := by
  unfold evict
  split <;> rfl

theorem slotOf?_evict_of_ne (different : other ≠ name) :
    (registry.evict name slot).slotOf? other = registry.slotOf? other := by
  unfold evict
  split
  · rw [slotOf?, slotOf?, List.find?_filter]
    congr 2
    funext entry
    by_cases same : entry.1 = other
    · simp [same, different]
    · simp [same]
  · rfl

theorem slotOf?_evict_self (registry : Registry) (name : String) (slot : Nat) :
    (registry.evict name slot).slotOf? name = registry.slotOf? name ∨
      (registry.evict name slot).slotOf? name = none ∧
        registry.slotOf? name = some slot ∧
        (registry.content slot).table? = none := by
  unfold evict
  split
  · next stale =>
    refine .inr ⟨?_, stale⟩
    simp [slotOf?, List.find?_filter]
  · exact .inl rfl

/-- An eviction takes names away and gives none. -/
theorem slotOf?_of_evict
    (named : (registry.evict name slot).slotOf? other = some place) :
    registry.slotOf? other = some place := by
  by_cases same : other = name
  · subst same
    rcases slotOf?_evict_self registry other slot with
      unchanged | ⟨gone, _⟩
    · rw [← unchanged, named]
    · simp [gone] at named
  · rwa [slotOf?_evict_of_ne same] at named

theorem slotOf?_evict_of_filled {table : Table}
    (named : registry.slotOf? other = some place)
    (filled : registry.content place = .filled table) :
    (registry.evict name slot).slotOf? other = some place := by
  by_cases same : other = name
  · subst same
    rcases slotOf?_evict_self registry other slot with
      unchanged | ⟨_, stale, vacant⟩
    · rw [unchanged, named]
    · cases stale.symm.trans named
      simp [filled, SlotContent.table?] at vacant
  · rwa [slotOf?_evict_of_ne same]

/-- A slot that keeps its name through its own eviction is filled. -/
theorem filled_of_slotOf?_evict
    (named : (registry.evict name slot).slotOf? name = some slot) :
    ∃ table, registry.content slot = .filled table := by
  unfold evict at named
  split at named
  · obtain ⟨entry, found, _⟩ := Option.map_eq_some_iff.mp named
    rw [List.find?_filter] at found
    have both := List.find?_some found
    simp at both
  · next fresh =>
    have known : (registry.content slot).table? ≠ none := fun vacant =>
      fresh ⟨named, vacant⟩
    obtain ⟨table, held⟩ := Option.ne_none_iff_exists'.mp known
    exact ⟨table, SlotContent.table?_eq_some_iff.mp held⟩

theorem cached?_of_filled {table : Table}
    (named : registry.slotOf? name = some slot)
    (filled : registry.content slot = .filled table) :
    registry.cached? name = some table := by
  simp [cached?, named, filled, SlotContent.table?]

theorem filled_of_cached? {table : Table}
    (known : registry.cached? name = some table) :
    ∃ slot, registry.slotOf? name = some slot ∧
      registry.content slot = .filled table := by
  obtain ⟨slot, named, held⟩ := Option.bind_eq_some_iff.mp known
  exact ⟨slot, named, SlotContent.table?_eq_some_iff.mp held⟩

/-- No name has two slots. -/
def Distinct (registry : Registry) : Prop :=
  (registry.names.map Prod.fst).Nodup

theorem mem_names_of_slotOf? (named : registry.slotOf? name = some slot) :
    (name, slot) ∈ registry.names := by
  obtain ⟨⟨known, place⟩, found, held⟩ := Option.map_eq_some_iff.mp named
  obtain rfl : place = slot := held
  obtain rfl : known = name := by simpa using List.find?_some found
  exact List.mem_of_find?_eq_some found

theorem slotOf?_eq_none_iff :
    registry.slotOf? name = none ↔ name ∉ registry.names.map Prod.fst := by
  simp only [slotOf?, Option.map_eq_none_iff, List.find?_eq_none, beq_iff_eq,
    List.mem_map, not_exists, not_and]

theorem Distinct.slotOf?_of_mem (distinct : registry.Distinct)
    (member : (name, slot) ∈ registry.names) :
    registry.slotOf? name = some slot := by
  cases named : registry.slotOf? name with
  | none =>
      exact absurd (List.mem_map_of_mem member) (slotOf?_eq_none_iff.mp named)
  | some place =>
      have same :=
        List.inj_on_of_nodup_map distinct
          (mem_names_of_slotOf? named) member rfl
      rw [(Prod.mk.inj same).2]

theorem Distinct.claim (distinct : registry.Distinct) (name : String) :
    (registry.claim name).2.Distinct := by
  cases known : registry.slotOf? name with
  | some slot => rwa [claim_of_slotOf? known]
  | none =>
      have unknown := slotOf?_eq_none_iff.mp known
      rw [Distinct] at distinct
      simp only [Distinct, Registry.claim, known, List.map_append,
        List.map_cons, List.map_nil]
      refine List.nodup_append.mpr ⟨distinct, by simp, ?_⟩
      rintro other member last isLast rfl
      rw [List.mem_singleton.mp isLast] at member
      exact unknown member

theorem Distinct.evict (distinct : registry.Distinct) (name : String)
    (slot : Nat) : (registry.evict name slot).Distinct := by
  unfold Registry.evict
  split
  · exact List.Nodup.sublist (List.filter_sublist.map Prod.fst) distinct
  · exact distinct

end Registry

end RecordSql
