import RecordSql.Proofs.Registry.Gathering

/-!
# What failures leave behind

A slot that has a name is filled, or some caller of the name holds it, who
will fill it or take the name away.  So when no caller is on its way, only
described tables have names in the registry.  A failure stays with the caller
whose own question to the database it was, and the slots that others have
filled keep their names.
-/

namespace RecordSql

/-- The questions among some that one caller asked. -/
def Introspection.ofCaller (number : Nat)
    (introspections : List Introspection) : List Introspection :=
  introspections.filter fun introspection => introspection.caller == number

theorem Introspection.ofCaller_append (number : Nat)
    (first second : List Introspection) :
    ofCaller number (first ++ second) =
      ofCaller number first ++ ofCaller number second :=
  List.filter_append first second

namespace Gathering

/-- No caller is between its first move and its last. -/
def Quiet (gathering : Gathering) : Prop :=
  ∀ caller ∈ gathering.callers, caller.stage.slot? = none

/-- What a run leaves of its failures. -/
structure Tidy (tables : List String) (turns : List Turn) : Prop where
  /-- When no caller is on its way, every name in the registry is that of a
  described table. -/
  described : ((arriving tables).run turns).Quiet →
    ∀ entry ∈ ((arriving tables).run turns).registry.names, ∃ found,
      ((arriving tables).run turns).registry.content entry.2 = .filled found ∧
        ∃ introspection ∈ (arriving tables).introspections turns,
          introspection.Found entry.1 found
  /-- No turn, an eviction or another, takes the name from a filled slot. -/
  kept : ∀ last,
    ∀ entry ∈ ((arriving tables).run turns).registry.names, ∀ found,
      ((arriving tables).run turns).registry.content entry.2 = .filled found →
        entry ∈ ((arriving tables).run (turns ++ [last])).registry.names ∧
          ((arriving tables).run (turns ++ [last])).registry.content entry.2 =
            .filled found
  /-- A caller that came back with a failure asked one question itself, which
  failed for the reason that it came back with. -/
  own : ∀ (number : Nat) table failure,
    ((arriving tables).run turns).callers[number]? =
        some (Caller.mk table (.done (.error failure))) →
      ∃ introspection reason,
        Introspection.ofCaller number ((arriving tables).introspections turns) =
            [introspection] ∧
          introspection.table = table ∧ introspection.outcome = .error reason ∧
            failure = .metadataUnavailable table reason

variable {gathering : Gathering} {turn : Turn} {past : List Introspection}
  {answer : ColumnsAnswer} {registry : Registry} {number : Nat}
  {name table : String} {stage reached : Stage} {slot : Nat}

/-- A slot with a name is filled, or a caller of the name holds it. -/
def Attended (gathering : Gathering) : Prop :=
  ∀ name slot, gathering.registry.slotOf? name = some slot →
    (∃ found, gathering.registry.content slot = .filled found) ∨
      ∃ (number : Nat) (stage : Stage),
        gathering.callers[number]? = some ⟨name, stage⟩ ∧
          stage.slot? = some slot

/-- A name is given with the first move of a caller and never else. -/
private theorem named_before
    (move : Caller.Move answer gathering.registry table stage reached registry)
    (named : registry.slotOf? name = some slot) :
    gathering.registry.slotOf? name = some slot ∨
      name = table ∧ reached = .waiting slot := by
  cases move with
  | joined =>
      rw [Registry.slotOf?_claim] at named
      split at named
      · next same => exact .inr ⟨same, by rw [Option.some.inj named]⟩
      · exact .inl named
  | evicted => exact .inl (Registry.slotOf?_of_evict named)
  | served | began | succeeded | gaveUp => exact .inl named

/-- Who lets go of a slot leaves it filled or without its name. -/
private theorem filled_or_holds (sound : gathering.Sound)
    (here : gathering.callers[number]? = some ⟨table, stage⟩)
    (move : Caller.Move answer gathering.registry table stage reached registry)
    (held : stage.slot? = some slot)
    (named : registry.slotOf? table = some slot) :
    (∃ found, registry.content slot = .filled found) ∨
      reached.slot? = some slot := by
  cases move with
  | joined => cases held
  | @served _ found filled =>
      cases held
      exact .inl ⟨found, filled⟩
  | began | gaveUp => exact .inr held
  | @succeeded _ found outcome =>
      cases held
      exact .inl ⟨found,
        Registry.content_put_self (sound.made _ _ (refers_of_caller here rfl))⟩
  | evicted =>
      cases held
      obtain ⟨found, filled⟩ := Registry.filled_of_slotOf?_evict named
      exact .inl ⟨found, by simpa using filled⟩

private theorem Attended.step (attended : gathering.Attended)
    (sound : gathering.Sound)
    (here : gathering.callers[number]? = some ⟨table, stage⟩)
    (move :
      Caller.Move answer gathering.registry table stage reached registry) :
    Attended ⟨registry, gathering.callers.set number ⟨table, reached⟩⟩ := by
  intro name slot named
  have inside := (List.getElem?_eq_some_iff.mp here).1
  have mover : (gathering.callers.set number ⟨table, reached⟩)[number]? =
      some ⟨table, reached⟩ := List.getElem?_set_self inside
  rcases named_before move named with old | ⟨rfl, rfl⟩
  · rcases attended name slot old with
      ⟨found, filled⟩ | ⟨place, holding, stands, held⟩
    · exact .inl ⟨found, (keeps_filled sound here move old filled).2⟩
    · by_cases same : place = number
      · subst same
        cases here.symm.trans stands
        rcases filled_or_holds sound here move held named with filled | holds
        · exact .inl filled
        · exact .inr ⟨place, reached, mover, holds⟩
      · refine .inr ⟨place, holding, ?_, held⟩
        rw [List.getElem?_set_ne (Ne.symm same)]
        exact stands
  · exact .inr ⟨number, _, mover, rfl⟩

theorem attended_run (tables : List String) (turns : List Turn) :
    ((arriving tables).run turns).Attended := by
  induction turns using List.reverseRecOn with
  | nil =>
      intro name slot named
      cases named
  | append_singleton turns last induction =>
      rw [run_concat]
      rcases after_cases ((arriving tables).run turns) last with
        ⟨passed, _⟩ | ⟨_, _, _, _, here, move, moved⟩
      · rwa [passed]
      · rw [moved]
        exact induction.step ((sound_arriving tables).run turns) here move

private theorem distinct_of_move (distinct : gathering.registry.Distinct)
    (move :
      Caller.Move answer gathering.registry table stage reached registry) :
    registry.Distinct := by
  cases move with
  | joined => exact distinct.claim table
  | evicted => exact distinct.evict table _
  | served | began | succeeded | gaveUp => exact distinct

theorem distinct_run (tables : List String) (turns : List Turn) :
    ((arriving tables).run turns).registry.Distinct := by
  induction turns using List.reverseRecOn with
  | nil => exact List.nodup_nil
  | append_singleton turns last induction =>
      rw [run_concat]
      rcases after_cases ((arriving tables).run turns) last with
        ⟨passed, _⟩ | ⟨_, _, _, _, _, move, moved⟩
      · rwa [passed]
      · rw [moved]
        exact distinct_of_move induction move

/-- What the questions of a caller at a stage came to.  Before it has an answer
there are none, and a failure is that of the only one. -/
def Tells (table : String) (stage : Stage) (own : List Introspection) : Prop :=
  match stage with
  | .arriving | .waiting _ | .asking _ => own = []
  | .failed _ reason => ∃ introspection, own = [introspection] ∧
      introspection.table = table ∧ introspection.outcome = .error reason
  | .done (.error failure) => ∃ introspection reason, own = [introspection] ∧
      introspection.table = table ∧ introspection.outcome = .error reason ∧
        failure = .metadataUnavailable table reason
  | .done (.ok _) => True

/-- Every caller's questions are among those of the past. -/
def Accounts (gathering : Gathering) (past : List Introspection) : Prop :=
  ∀ (number : Nat) table stage,
    gathering.callers[number]? = some ⟨table, stage⟩ →
      Tells table stage (Introspection.ofCaller number past)

theorem introspection?_of_not_asking
    (here : gathering.callers[turn.caller]? = some ⟨table, stage⟩)
    (others : ∀ slot, stage ≠ .asking slot) :
    gathering.introspection? turn = none := by
  cases stage with
  | asking slot => exact absurd rfl (others slot)
  | arriving | waiting | failed | done => simp [introspection?, here]

theorem caller_of_introspection? {introspection : Introspection}
    (ended : gathering.introspection? turn = some introspection) :
    introspection.caller = turn.caller := by
  obtain ⟨⟨table, stage⟩, _, asked⟩ := Option.bind_eq_some_iff.mp ended
  cases stage with
  | asking slot =>
      cases asked
      rfl
  | arriving | waiting | failed | done => cases asked

/-- A turn adds to the questions of the caller whose turn it is. -/
theorem ofCaller_append_of_ne (others : turn.caller ≠ number) :
    Introspection.ofCaller number
        (past ++ (gathering.introspection? turn).toList) =
      Introspection.ofCaller number past := by
  rw [Introspection.ofCaller_append]
  cases ended : gathering.introspection? turn with
  | none => exact List.append_nil _
  | some introspection =>
      have caller := caller_of_introspection? ended
      simp [Introspection.ofCaller, caller, others]

private theorem Accounts.after (accounts : gathering.Accounts past)
    (turn : Turn) :
    (gathering.after turn).Accounts
      (past ++ (gathering.introspection? turn).toList) := by
  rcases after_cases gathering turn with
    ⟨passed, nothing⟩ | ⟨table, stage, reached, registry, here, move, moved⟩
  · simpa [passed, nothing] using accounts
  rw [moved]
  intro number name now stands
  rcases caller_before stands with ⟨rfl, same⟩ | ⟨different, old⟩
  · cases same
    have told := accounts turn.caller table stage here
    cases move with
    | joined | began =>
        rw [introspection?_of_not_asking here (by simp), Option.toList_none,
          List.append_nil]
        exact told
    | served | succeeded => trivial
    | @gaveUp slot reason outcome =>
        rw [introspection?_of_asking here]
        have none : Introspection.ofCaller turn.caller past = [] := told
        have own (introspection : Introspection)
              (same : introspection.caller = turn.caller) :
            Introspection.ofCaller turn.caller (past ++ [introspection]) =
              [introspection] := by
          rw [Introspection.ofCaller_append, none]
          simp [Introspection.ofCaller, same]
        exact ⟨_, own _ rfl, rfl, outcome⟩
    | @evicted slot reason =>
        rw [introspection?_of_not_asking here (by simp), Option.toList_none,
          List.append_nil]
        obtain ⟨introspection, own, same, outcome⟩ := told
        exact ⟨introspection, reason, own, same, outcome, rfl⟩
  · rw [ofCaller_append_of_ne (Ne.symm different)]
    exact accounts number name now old

theorem accounts_run (tables : List String) (turns : List Turn) :
    ((arriving tables).run turns).Accounts
      ((arriving tables).introspections turns) := by
  induction turns using List.reverseRecOn with
  | nil =>
      intro number table stage stands
      obtain ⟨name, _, arrives⟩ := List.mem_map.mp (List.mem_of_getElem? stands)
      cases arrives
      rfl
  | append_singleton turns last induction =>
      rw [run_concat, introspections_concat]
      exact induction.after last

/-- However the moves of callers are interleaved and whatever the
database answers, failed names do not stay, filled slots do, and failures
are the callers' own. -/
theorem tidy_run (tables : List String) (turns : List Turn) :
    Tidy tables turns where
  described := by
    rintro quiet ⟨name, slot⟩ member
    have named := (distinct_run tables turns).slotOf?_of_mem member
    rcases attended_run tables turns name slot named with
      ⟨found, filled⟩ | ⟨_, _, stands, held⟩
    · obtain ⟨introspection, asked, _, known⟩ :=
        (recalls_run tables turns).filled name slot found (.inl named) filled
      exact ⟨found, filled, introspection, asked, known⟩
    · have nothing := quiet _ (List.mem_of_getElem? stands)
      rw [nothing] at held
      cases held
  kept := by
    rintro last ⟨name, slot⟩ member found filled
    have named := (distinct_run tables turns).slotOf?_of_mem member
    have sound := (sound_arriving tables).run turns
    rw [run_append]
    obtain ⟨stillNamed, stillFilled⟩ :=
      run_keeps_filled sound [last] named filled
    exact ⟨Registry.mem_names_of_slotOf? stillNamed, stillFilled⟩
  own := fun number table failure stands =>
    accounts_run tables turns number table (.done (.error failure)) stands

end Gathering

end RecordSql
