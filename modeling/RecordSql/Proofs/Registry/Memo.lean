import RecordSql.Proofs.Registry.Slots
import RecordSql.Scripted.MemoSession

/-!
# A registry read as a map

When no caller is on its way, every slot that has a name is filled, and the
registry says no more than a map from names to tables.  One caller from its
arrival to its end does to the registry what it does to the map.
-/

namespace RecordSql

namespace Registry

/-- The names of a registry, in their order, have the tables of a map. -/
def Represents (registry : Registry) (memo : Memo) : Prop :=
  registry.names.map (fun entry => (entry.1, registry.content entry.2)) =
    memo.entries.map fun entry => (entry.1, .filled entry.2)

variable {registry : Registry} {memo : Memo} {name : String}

theorem represents_empty : empty.Represents .empty := rfl

theorem Represents.cached? (represents : registry.Represents memo)
    (name : String) : registry.cached? name = memo.get? name := by
  have found :
      ∀ (names : List (String × Nat)) (entries : List (String × Table)),
        names.map (fun entry => (entry.1, registry.content entry.2)) =
            entries.map (fun entry => (entry.1, .filled entry.2)) →
          (((names.find? fun entry => entry.1 == name).map
            Prod.snd).bind fun slot =>
            (registry.content slot).table?) =
          (entries.find? fun entry => entry.1 == name).map Prod.snd := by
    intro names
    induction names with
    | nil =>
        intro entries same
        rw [List.map_eq_nil_iff.mp same.symm]
        rfl
    | cons first names induction =>
        intro entries same
        cases entries with
        | nil => cases same
        | cons entry entries =>
            simp only [List.map_cons, List.cons.injEq, Prod.mk.injEq] at same
            obtain ⟨⟨sameName, filled⟩, rest⟩ := same
            by_cases wanted : entry.1 = name
            · simp [sameName, wanted, filled, SlotContent.table?]
            · simpa [sameName, wanted] using induction entries rest
  exact found registry.names memo.entries represents

theorem Represents.filled (represents : registry.Represents memo) {slot : Nat}
    (member : (name, slot) ∈ registry.names) :
    ∃ table, registry.content slot = .filled table := by
  have held :=
    List.mem_map_of_mem
      (f := fun entry => (entry.1, registry.content entry.2)) member
  rw [represents] at held
  obtain ⟨entry, _, same⟩ := List.mem_map.mp held
  exact ⟨entry.2, (Prod.mk.inj same).2.symm⟩

theorem Represents.isEmpty (represents : registry.Represents memo) :
    registry.isEmpty = memo.isEmpty := by
  have allLoaded : registry.names.filter
        (fun entry => (registry.content entry.2).table?.isSome) =
      registry.names := by
    refine List.filter_eq_self.mpr fun entry member => ?_
    obtain ⟨table, filled⟩ := represents.filled member
    rw [filled]
    rfl
  have count : registry.loadedCount = memo.entries.length := by
    rw [loadedCount, allLoaded]
    simpa using congrArg List.length represents
  rw [Registry.isEmpty, count, Memo.isEmpty]
  cases memo.entries <;> rfl

/-- In a registry that is read as a map, a name without a table has no slot. -/
theorem Represents.slotOf?_eq_none (represents : registry.Represents memo)
    (absent : memo.get? name = none) : registry.slotOf? name = none := by
  cases named : registry.slotOf? name with
  | none => rfl
  | some slot =>
      obtain ⟨table, filled⟩ := represents.filled (mem_names_of_slotOf? named)
      rw [← represents.cached?, cached?_of_filled named filled] at absent
      cases absent

private theorem content_concat {names others : List (String × Nat)}
    {slots : List SlotContent} {slot : Nat} {content : SlotContent}
    (made : slot < slots.length) :
    (Registry.mk names (slots ++ [content])).content slot =
      (Registry.mk others slots).content slot := by
  simp [Registry.content, List.getElem?_append_left made]

private theorem Represents.map_concat (represents : registry.Represents memo)
    (names : List (String × Nat)) (content : SlotContent) :
    registry.names.map (fun entry =>
        (entry.1,
          (Registry.mk names (registry.slots ++ [content])).content entry.2)) =
      memo.entries.map fun entry => (entry.1, .filled entry.2) := by
  rw [← represents]
  refine List.map_congr_left fun entry member => ?_
  obtain ⟨table, filled⟩ := represents.filled member
  have made : entry.2 < registry.slots.length := by
    by_contra beyond
    rw [content_of_length_le (Nat.le_of_not_lt beyond)] at filled
    cases filled
  rw [content_concat made]

/-- A slot without a name is not seen. -/
theorem Represents.concat (represents : registry.Represents memo)
    (content : SlotContent) :
    (Registry.mk registry.names (registry.slots ++ [content])).Represents
      memo :=
  represents.map_concat registry.names content

/-- A filled slot with a name is an entry of the map. -/
theorem Represents.insert (represents : registry.Represents memo)
    (name : String) (table : Table) :
    (Registry.mk (registry.names ++ [(name, registry.slots.length)])
      (registry.slots ++ [.filled table])).Represents
      (memo.insert name table) := by
  rw [Represents, List.map_append, represents.map_concat, Memo.insert,
    List.map_append]
  simp [Registry.content]

end Registry

namespace Catalog

variable {catalog : Catalog} {name : String} {slot : Nat} {table : Table}

/-- A table that is known is found, and nothing changes. -/
theorem describe_of_filled (named : catalog.registry.slotOf? name = some slot)
    (filled : catalog.registry.content slot = .filled table) :
    catalog.describe name = (.ok table, catalog) := by
  simp [describe, describeTogether, rounds, round, poll, greatestMoves,
    Caller.arriving, Caller.advance?, Caller.isAsking, Caller.outcome?,
    Registry.claim_of_slotOf? named, filled]

/-- Whoever asks for a name without a slot makes one and begins to
ask for columns. -/
private theorem poll_arriving (unnamed : catalog.registry.slotOf? name = none) :
    poll greatestMoves catalog (.arriving name) =
      let slots := catalog.registry.slots
      (⟨name, .asking slots.length⟩,
        ⟨⟨catalog.registry.names ++ [(name, slots.length)], slots ++ [.busy]⟩,
          catalog.connection.beginColumns⟩) := by
  simp [poll, greatestMoves, Caller.arriving, Caller.advance?, Caller.isAsking,
    Registry.claim, unnamed, Registry.content, Registry.put]

/-- The eviction of a slot that was made last undoes the making. -/
private theorem evict_last {registry : Registry}
    (unnamed : registry.slotOf? name = none) :
    (Registry.mk (registry.names ++ [(name, registry.slots.length)])
        (registry.slots ++ [.vacant])).evict name registry.slots.length =
      ⟨registry.names, registry.slots ++ [.vacant]⟩ := by
  have unknown := Registry.slotOf?_eq_none_iff.mp unnamed
  have kept : registry.names.filter (fun entry => !(entry.1 == name)) =
      registry.names := by
    refine List.filter_eq_self.mpr fun entry member => ?_
    have different : entry.1 ≠ name := fun same =>
      unknown (same ▸ List.mem_map_of_mem member)
    simpa using different
  have absent : registry.names.find? (fun entry => entry.1 == name) = none := by
    simpa [Registry.slotOf?] using unnamed
  simp [Registry.evict, Registry.slotOf?, Registry.content, SlotContent.table?,
    absent, kept]

/-- Who has begun to ask comes back with the answer. -/
private theorem poll_asking {registry : Registry}
    (unnamed : registry.slotOf? name = none) (connection : ScriptedConnection) :
    poll greatestMoves
      ⟨⟨registry.names ++ [(name, registry.slots.length)],
        registry.slots ++ [.busy]⟩, connection⟩
      ⟨name, .asking registry.slots.length⟩ =
      let (answer, connection) := connection.answerColumns name
      match Caller.tableOf name answer with
      | .ok table =>
        (⟨name, .done (.ok table)⟩,
          ⟨⟨registry.names ++ [(name, registry.slots.length)],
            registry.slots ++ [.filled table]⟩, connection⟩)
      | .error reason =>
        (⟨name, .done (.error (.metadataUnavailable name reason))⟩,
          ⟨⟨registry.names, registry.slots ++ [.vacant]⟩, connection⟩) := by
  cases outcome : Caller.tableOf name (connection.answerColumns name).1 with
  | ok table =>
      simp [poll, greatestMoves, Caller.advance?, Caller.isAsking, outcome,
        Registry.put]
  | error reason =>
      simp [poll, greatestMoves, Caller.advance?, Caller.isAsking, outcome,
        Registry.put, evict_last unnamed]

/-- A name without a slot is asked for once.  It keeps the slot made for it if
there are columns, and loses it otherwise. -/
theorem describe_of_unnamed (unnamed : catalog.registry.slotOf? name = none) :
    catalog.describe name =
      let (answer, connection) :=
        catalog.connection.beginColumns.answerColumns name
      let slots := catalog.registry.slots
      match Caller.tableOf name answer with
      | .ok table =>
        (.ok table,
          ⟨⟨catalog.registry.names ++ [(name, slots.length)],
            slots ++ [.filled table]⟩, connection⟩)
      | .error reason =>
        (.error (.metadataUnavailable name reason),
          ⟨⟨catalog.registry.names, slots ++ [.vacant]⟩, connection⟩) := by
  simp only [describe, describeTogether, rounds, round, List.replicate,
    poll_arriving unnamed, poll_asking unnamed]
  cases Caller.tableOf name
    (catalog.connection.beginColumns.answerColumns name).1 <;> rfl

end Catalog

end RecordSql
