import RecordSql.Proofs.Registry.Gathering

/-!
# When a table is described once

A run describes a table once if the database gave its columns at most once, all
callers that came back with the table have the same one, and from the first of
them on the table is known and whoever arrives gets it without asking.  This
fails for runs in which a caller fills a slot after another caller's failure has
taken the slot's name away, and only for them.
-/

namespace RecordSql

/-- Where a caller stands after so many of its turns when the table of
its slot is known. -/
def Stage.served (slot : Nat) (found : Table) : Nat → Stage
  | 0 => .arriving
  | 1 => .waiting slot
  | _ + 2 => .done (.ok found)

namespace Gathering

/-- A run of callers of some tables describes the table of a name once. -/
structure ComputedOnce (tables : List String) (turns : List Turn)
    (name : String) : Prop where
  once :
    Introspection.successes name ((arriving tables).introspections turns) ≤ 1
  agreed : ∀ found other, ((arriving tables).run turns).Returned name found →
    ((arriving tables).run turns).Returned name other → found = other
  known : ∀ earlier, earlier <+: turns → ∀ found,
    ((arriving tables).run earlier).Returned name found →
      ((arriving tables).run earlier).registry.cached? name = some found
  /-- From its first turn on, a later caller needs two turns and never asks. -/
  served : ∀ earlier later, earlier ++ later <+: turns → ∀ found,
    ((arriving tables).run earlier).Returned name found → ∀ number,
      ((arriving tables).run earlier).callers[number]? =
        some (Caller.arriving name) → ∃ slot,
          ((arriving tables).run (earlier ++ later)).callers[number]? =
            some (Caller.mk name
              (.served slot found
                (later.countP fun turn => turn.caller == number)))

variable {gathering : Gathering} {turn : Turn} {name : String}
  {slot number : Nat} {found : Table}

theorem callers_after_of_ne (others : turn.caller ≠ number) :
    (gathering.after turn).callers[number]? = gathering.callers[number]? := by
  rcases after_cases gathering turn with ⟨passed, _⟩ | ⟨_, _, _, _, _, _, moved⟩
  · rw [passed]
  · rw [moved, List.getElem?_set_ne others]

theorem after_of_advance? {caller moved : Caller} {registry : Registry}
    (stands : gathering.callers[turn.caller]? = some caller)
    (advanced :
      caller.advance? turn.answer gathering.registry = some (moved, registry)) :
    gathering.after turn =
      ⟨registry, gathering.callers.set turn.caller moved⟩ := by
  simp only [after, stands, advanced]

theorem callers_after_of_advance? {caller moved : Caller} {registry : Registry}
    (stands : gathering.callers[turn.caller]? = some caller)
    (advanced :
      caller.advance? turn.answer gathering.registry = some (moved, registry)) :
    (gathering.after turn).callers[turn.caller]? = some moved := by
  have inside : turn.caller < gathering.callers.length :=
    (List.getElem?_eq_some_iff.mp stands).1
  rw [after_of_advance? stands advanced]
  exact List.getElem?_set_self inside

private theorem served_after {count : Nat}
    (named : gathering.registry.slotOf? name = some slot)
    (filled : gathering.registry.content slot = .filled found)
    (stands :
      gathering.callers[turn.caller]? = some ⟨name, .served slot found count⟩) :
    (gathering.after turn).callers[turn.caller]? =
      some ⟨name, .served slot found (count + 1)⟩ := by
  match count with
  | 0 =>
      have advanced : Caller.advance?
          ⟨name, .served slot found 0⟩ turn.answer gathering.registry =
          some (⟨name, .served slot found 1⟩, gathering.registry) := by
        simp only [Caller.advance?, Stage.served,
          Registry.claim_of_slotOf? named]
      exact callers_after_of_advance? stands advanced
  | 1 =>
      have advanced : Caller.advance?
          ⟨name, .served slot found 1⟩ turn.answer gathering.registry =
          some (⟨name, .served slot found 2⟩, gathering.registry) := by
        simp only [Caller.advance?, Stage.served, filled]
      exact callers_after_of_advance? stands advanced
  | _ + 2 =>
      have passed : gathering.after turn = gathering := by
        simp only [after, stands, Caller.advance?, Stage.served]
      rw [passed]
      exact stands

/-- Who arrives when the table of its name is known gets it and does not ask. -/
theorem served_run (sound : gathering.Sound) (later : List Turn)
    (named : gathering.registry.slotOf? name = some slot)
    (filled : gathering.registry.content slot = .filled found)
    (arrives : gathering.callers[number]? = some (.arriving name)) :
    (gathering.run later).callers[number]? =
      some ⟨name,
        .served slot found
          (later.countP fun turn => turn.caller == number)⟩ := by
  induction later using List.reverseRecOn with
  | nil => exact arrives
  | append_singleton later last induction =>
      obtain ⟨stillNamed, stillFilled⟩ :=
        run_keeps_filled sound later named filled
      rw [run_concat, List.countP_append, List.countP_singleton]
      by_cases own : last.caller = number
      · subst own
        simpa using served_after stillNamed stillFilled induction
      · rw [callers_after_of_ne own, induction]
        simp [own]

/-- Every answer with the columns of a table came while the slot had its
name. -/
def AnswersNamed (tables : List String) (turns : List Turn)
    (name : String) : Prop :=
  ∀ introspection ∈ (arriving tables).introspections turns, ∀ found,
    introspection.Found name found → introspection.named = true

theorem AnswersNamed.of_prefix {tables : List String}
    {earlier turns : List Turn} (answersNamed : AnswersNamed tables turns name)
    (starts : earlier <+: turns) : AnswersNamed tables earlier name := by
  obtain ⟨later, rfl⟩ := starts
  intro introspection member
  rw [AnswersNamed, introspections_append] at answersNamed
  exact answersNamed introspection (List.mem_append_left _ member)

/-- Once a caller came back with the table, the slot of the name holds it. -/
private theorem AnswersNamed.filled {tables : List String} {turns : List Turn}
    (answersNamed : AnswersNamed tables turns name)
    (returned : ((arriving tables).run turns).Returned name found) :
    ∃ slot, ((arriving tables).run turns).registry.slotOf? name = some slot ∧
      ((arriving tables).run turns).registry.content slot = .filled found := by
  have recalls := recalls_run tables turns
  obtain ⟨introspection, member, known⟩ := recalls.returned name found returned
  exact ⟨introspection.slot, recalls.kept introspection member
    (answersNamed introspection member found known) name found known⟩

/-- An answer that reached its name is the last with columns. -/
private theorem named_introspection? {past : List Introspection}
    (sound : gathering.Sound) (recalls : gathering.Recalls past)
    {ended introspection : Introspection} (member : ended ∈ past)
    (named : ended.named = true) (known : ended.Found name found)
    (next : gathering.introspection? turn = some introspection)
    (nextNamed : introspection.named = true) : introspection.table ≠ name := by
  intro same
  obtain ⟨asking, _, nextSlot⟩ := asking_of_introspection? next
  obtain ⟨slotNamed, filled⟩ := recalls.kept ended member named name found known
  have slotNamedNext := nextSlot.mp nextNamed
  rw [same, slotNamed] at slotNamedNext
  have busy := sound.busy _ _ _ asking
  rw [← Option.some.inj slotNamedNext, filled] at busy
  cases busy

/-- Once a slot with its name is filled, the table is known, and no later turn
gives it again. -/
private theorem successes_le_one {tables : List String} {turns : List Turn}
    (answersNamed : AnswersNamed tables turns name) :
    Introspection.successes name ((arriving tables).introspections turns) ≤
      1 := by
  induction turns using List.reverseRecOn with
  | nil => exact Nat.zero_le 1
  | append_singleton turns last induction =>
      have namedBefore :=
        answersNamed.of_prefix (List.prefix_append turns [last])
      rw [AnswersNamed, introspections_concat] at answersNamed
      rw [introspections_concat, successes_append]
      rcases Nat.eq_zero_or_pos
          (Introspection.successes name
            ((arriving tables).introspections turns)) with
        nothing | before
      · rw [nothing, Nat.zero_add]
        exact Nat.le_trans List.countP_le_length Option.length_toList_le
      · have notAgain : Introspection.successes name
            (((arriving tables).run turns).introspection? last).toList = 0 := by
          by_contra again
          obtain ⟨first, member, found, known⟩ := successes_pos_iff.mp before
          obtain ⟨second, ended, other, otherKnown⟩ :=
            successes_pos_iff.mp (Nat.pos_of_ne_zero again)
          have otherNamed :=
            answersNamed second (List.mem_append_right _ ended) other otherKnown
          exact named_introspection? ((sound_arriving tables).run turns)
            (recalls_run tables turns) member
            (namedBefore first member found known) known
            (Option.mem_toList.mp ended) otherNamed otherKnown.1
        rw [notAgain]
        exact induction namedBefore

private theorem returned_after {introspection : Introspection}
    (ended : gathering.introspection? turn = some introspection)
    (known : introspection.Found name found) :
    (gathering.after turn).Returned name found ∧
      (gathering.after turn).registry.slotOf? name =
        gathering.registry.slotOf? name := by
  obtain ⟨asking, outcome, _⟩ := asking_of_introspection? ended
  obtain ⟨rfl, succeeded⟩ := known
  have advanced : Caller.advance?
      ⟨introspection.table, .asking introspection.slot⟩ turn.answer
      gathering.registry =
      some (⟨introspection.table, .done (.ok found)⟩,
        gathering.registry.put introspection.slot (.filled found)) := by
    simp only [Caller.advance?, ← outcome, succeeded]
  have moved := after_of_advance? asking advanced
  refine ⟨?_, by rw [moved]; rfl⟩
  exact List.mem_of_getElem? (callers_after_of_advance? asking advanced)

/-- A run describes a table once if and only if every answer with its columns
came while the slot had its name. -/
theorem computedOnce_iff (tables : List String) (turns : List Turn)
    (name : String) :
    ComputedOnce tables turns name ↔ AnswersNamed tables turns name := by
  constructor
  · intro computedOnce introspection member found known
    obtain ⟨earlier, last, later, rfl, ended⟩ :=
      exists_of_mem_introspections member
    obtain ⟨returned, sameNames⟩ := returned_after ended known
    rw [← run_concat] at returned sameNames
    have cached :=
      computedOnce.known (earlier ++ [last]) (by simp) found returned
    obtain ⟨slot, named, filled⟩ := Registry.filled_of_cached? cached
    obtain ⟨first, firstMember, rfl, firstKnown⟩ :=
      (recalls_run tables (earlier ++ [last])).filled name slot found
        (.inl named) filled
    rw [introspections_concat, ended] at firstMember
    rcases List.mem_append.mp firstMember with before | same
    · have atMostOne := computedOnce.once
      rw [introspections_append, successes_append, introspections, ended,
        successes_append] at atMostOne
      have one := successes_pos_iff.mpr ⟨first, before, found, firstKnown⟩
      have another := successes_pos_iff.mpr
        ⟨introspection, List.mem_cons_self (l := []), found, known⟩
      simp only [Option.toList_some] at atMostOne
      omega
    · cases List.mem_singleton.mp same
      obtain ⟨_, _, isNamed⟩ := asking_of_introspection? ended
      rw [isNamed, known.1, ← sameNames, named]
  · intro answersNamed
    refine ⟨successes_le_one answersNamed, ?agreed, ?known, ?served⟩
    case agreed =>
      intro found other returned otherReturned
      obtain ⟨slot, named, filled⟩ := answersNamed.filled returned
      obtain ⟨otherSlot, otherNamed, otherFilled⟩ :=
        answersNamed.filled otherReturned
      cases named.symm.trans otherNamed
      cases filled.symm.trans otherFilled
      rfl
    case known =>
      intro earlier starts found returned
      obtain ⟨slot, named, filled⟩ :=
        (answersNamed.of_prefix starts).filled returned
      exact Registry.cached?_of_filled named filled
    case served =>
      intro earlier later starts found returned number arrives
      have startsEarlier := (List.prefix_append earlier later).trans starts
      obtain ⟨slot, named, filled⟩ :=
        (answersNamed.of_prefix startsEarlier).filled returned
      refine ⟨slot, ?_⟩
      rw [run_append]
      exact served_run ((sound_arriving tables).run earlier) later named
        filled arrives

/-- Three callers want the same table.  The first two hold its slot when the
first is told that the server has gone away; its eviction takes the name from
the slot while the second asks, so that the third makes a new slot and asks
again, of a table that has changed. -/
def lostName : List Turn :=
  let gone : ColumnsAnswer := .error ⟨some "2006", "gone away"⟩
  let first : ColumnsAnswer := .ok [⟨"id", "int", false, true, none⟩]
  let second : ColumnsAnswer := .ok [⟨"id", "bigint", false, true, none⟩]
  [⟨0, gone⟩, ⟨1, first⟩, ⟨0, gone⟩, ⟨0, gone⟩, ⟨1, first⟩, ⟨0, gone⟩,
    ⟨1, first⟩, ⟨2, second⟩, ⟨2, second⟩, ⟨2, second⟩]

theorem not_computedOnce_lostName :
    ¬ ComputedOnce ["users", "users", "users"] lostName "users" := by
  intro computedOnce
  have atMostOne := computedOnce.once
  revert atMostOne
  decide

end Gathering

end RecordSql
