import Mathlib.Data.List.Induction
import RecordSql.Proofs.Registry.Slots
import RecordSql.Registry.Gathering

/-!
# Invariants of a gathering

What one move of one caller can do is said once, by `Caller.Move`.  From it
follow, for every run: each slot belongs to one name and is asked for by at most
one caller, who holds it busy; and the contents of slots and the tables that
callers came back with are answers of the introspections that have ended so far.
-/

namespace RecordSql

/-- The moves of a caller that asks for a table, with what they do
to the registry. -/
inductive Caller.Move (answer : ColumnsAnswer) (registry : Registry)
    (table : String) : Stage → Stage → Registry → Prop where
  | joined : Move answer registry table .arriving
      (.waiting (registry.claim table).1) (registry.claim table).2
  | served {slot : Nat} {found : Table}
      (filled : registry.content slot = .filled found) :
      Move answer registry table (.waiting slot) (.done (.ok found)) registry
  | began {slot : Nat} (vacant : registry.content slot = .vacant) :
      Move answer registry table (.waiting slot) (.asking slot)
        (registry.put slot .busy)
  | succeeded {slot : Nat} {found : Table}
      (outcome : tableOf table answer = .ok found) :
      Move answer registry table (.asking slot) (.done (.ok found))
        (registry.put slot (.filled found))
  | gaveUp {slot : Nat} {reason : String}
      (outcome : tableOf table answer = .error reason) :
      Move answer registry table (.asking slot) (.failed slot reason)
        (registry.put slot .vacant)
  | evicted {slot : Nat} {reason : String} :
      Move answer registry table (.failed slot reason)
        (.done (.error (.metadataUnavailable table reason)))
        (registry.evict table slot)

theorem Caller.move_of_advance? {table : String} {stage : Stage}
    {answer : ColumnsAnswer} {registry next : Registry} {moved : Caller}
    (advanced :
      Caller.advance? ⟨table, stage⟩ answer registry = some (moved, next)) :
    ∃ reached, moved = ⟨table, reached⟩ ∧
      Move answer registry table stage reached next := by
  cases stage with
  | arriving =>
      cases advanced
      exact ⟨_, rfl, .joined⟩
  | waiting slot =>
      cases content : registry.content slot with
      | filled found =>
          simp only [advance?, content, Option.some.injEq, Prod.mk.injEq]
            at advanced
          obtain ⟨rfl, rfl⟩ := advanced
          exact ⟨_, rfl, .served content⟩
      | vacant =>
          simp only [advance?, content, Option.some.injEq, Prod.mk.injEq]
            at advanced
          obtain ⟨rfl, rfl⟩ := advanced
          exact ⟨_, rfl, .began content⟩
      | busy => simp [advance?, content] at advanced
  | asking slot =>
      cases outcome : tableOf table answer with
      | ok found =>
          simp only [advance?, outcome, Option.some.injEq, Prod.mk.injEq]
            at advanced
          obtain ⟨rfl, rfl⟩ := advanced
          exact ⟨_, rfl, .succeeded outcome⟩
      | error reason =>
          simp only [advance?, outcome, Option.some.injEq, Prod.mk.injEq]
            at advanced
          obtain ⟨rfl, rfl⟩ := advanced
          exact ⟨_, rfl, .gaveUp outcome⟩
  | failed slot reason =>
      cases advanced
      exact ⟨_, rfl, .evicted⟩
  | done outcome => cases advanced

namespace Gathering

variable {gathering : Gathering} {turn : Turn} {past : List Introspection}
  {name other : String} {slot : Nat} {found : Table}

theorem after_cases (gathering : Gathering) (turn : Turn) :
    (gathering.after turn = gathering ∧ gathering.introspection? turn = none) ∨
      ∃ table stage reached registry,
        gathering.callers[turn.caller]? = some ⟨table, stage⟩ ∧
          Caller.Move turn.answer gathering.registry table stage
            reached registry ∧
            gathering.after turn =
              ⟨registry,
                gathering.callers.set turn.caller ⟨table, reached⟩⟩ := by
  cases here : gathering.callers[turn.caller]? with
  | none => exact .inl (by simp [after, introspection?, here])
  | some caller =>
      obtain ⟨table, stage⟩ := caller
      cases advanced :
          Caller.advance? ⟨table, stage⟩ turn.answer gathering.registry with
      | none =>
          refine .inl ⟨by simp [after, here, advanced], ?_⟩
          cases stage with
          | asking slot =>
              cases outcome : Caller.tableOf table turn.answer <;>
                simp [Caller.advance?, outcome] at advanced
          | arriving | waiting | failed | done => simp [introspection?, here]
      | some result =>
          obtain ⟨moved, registry⟩ := result
          obtain ⟨reached, rfl, move⟩ := Caller.move_of_advance? advanced
          exact .inr ⟨table, stage, reached, registry, rfl,
            move, by simp [after, here, advanced]⟩

/-- A name has a slot, or a caller that asks for it holds the slot. -/
def Refers (gathering : Gathering) (name : String) (slot : Nat) : Prop :=
  gathering.registry.slotOf? name = some slot ∨
    ∃ caller ∈ gathering.callers, caller.table = name ∧
      caller.stage.slot? = some slot

/-- Slots belong to one name, and to one asking caller while they are busy. -/
structure Sound (gathering : Gathering) : Prop where
  made : ∀ name slot, gathering.Refers name slot →
    slot < gathering.registry.slots.length
  owned : ∀ name other slot, gathering.Refers name slot →
    gathering.Refers other slot →
    name = other
  busy : ∀ (number : Nat) (table : String) (slot : Nat),
    gathering.callers[number]? = some (Caller.mk table (.asking slot)) →
      gathering.registry.content slot = .busy
  alone : ∀ (number another : Nat) (table others : String) (slot : Nat),
    gathering.callers[number]? = some (Caller.mk table (.asking slot)) →
      gathering.callers[another]? = some (Caller.mk others (.asking slot)) →
      number = another

theorem refers_of_caller {number : Nat} {table : String} {stage : Stage}
    (here : gathering.callers[number]? = some ⟨table, stage⟩)
    (holds : stage.slot? = some slot) : gathering.Refers table slot :=
  .inr ⟨_, List.mem_of_getElem? here, rfl, holds⟩

section Step

variable {answer : ColumnsAnswer} {registry : Registry} {number : Nat}
  {table : String} {stage reached : Stage}

private theorem length_slots_le
    (move :
      Caller.Move answer gathering.registry table stage reached registry) :
    gathering.registry.slots.length ≤ registry.slots.length := by
  cases move with
  | joined => exact Registry.length_slots_claim
  | served | began | succeeded | gaveUp | evicted => simp

theorem Refers.before (here : gathering.callers[number]? = some ⟨table, stage⟩)
    (move : Caller.Move answer gathering.registry table stage reached registry)
    (refers :
      Refers ⟨registry, gathering.callers.set number ⟨table, reached⟩⟩ name
        slot) : gathering.Refers name slot ∨
      name = table ∧ slot = gathering.registry.slots.length ∧
        gathering.registry.slotOf? table = none ∧
        slot < registry.slots.length := by
  have joining (same : name = table)
        (claimed : slot = (gathering.registry.claim table).1) :
      gathering.Refers name slot ∨
        name = table ∧ slot = gathering.registry.slots.length ∧
          gathering.registry.slotOf? table = none ∧
            slot < (gathering.registry.claim table).2.slots.length := by
    cases known : gathering.registry.slotOf? table with
    | some owned =>
        rw [Registry.claim_of_slotOf? known] at claimed
        exact .inl (.inl (by rw [same, claimed, known]))
    | none =>
        have fresh := Registry.claim_of_slotOf?_eq_none known
        refine .inr ⟨same, claimed.trans fresh, rfl, ?_⟩
        rw [claimed]
        exact Registry.claim_lt fun slot named => by simp [known] at named
  rcases refers with named | ⟨caller, member, rfl, holds⟩
  · cases move with
    | joined =>
        rw [Registry.slotOf?_claim] at named
        split at named
        · next same => exact joining same (Option.some.inj named).symm
        · exact .inl (.inl named)
    | evicted => exact .inl (.inl (Registry.slotOf?_of_evict named))
    | served | began | succeeded | gaveUp => exact .inl (.inl named)
  · rcases List.mem_or_eq_of_mem_set member with old | rfl
    · exact .inl (.inr ⟨caller, old, rfl, holds⟩)
    · cases move with
      | joined => exact joining rfl (Option.some.inj holds).symm
      | served | succeeded | evicted => cases holds
      | began | gaveUp => exact .inl (refers_of_caller here holds)

theorem caller_before {place : Nat} {caller : Caller}
    (now : (gathering.callers.set number
      ⟨table, reached⟩)[place]? = some caller) :
    (place = number ∧ caller = ⟨table, reached⟩) ∨
      place ≠ number ∧ gathering.callers[place]? = some caller := by
  by_cases same : place = number
  · subst same
    have held := List.mem_of_getElem? now
    rw [List.getElem?_set_self'] at now
    cases old : gathering.callers[place]? with
    | none => simp [old] at now
    | some before =>
        simp [old] at now
        exact .inl ⟨rfl, now.symm⟩
  · rw [List.getElem?_set_ne (Ne.symm same)] at now
    exact .inr ⟨same, now⟩

/-- What a slot holds is changed by the caller that asks for it alone, once
it is not vacant. -/
theorem content_of_not_asking
    (move : Caller.Move answer gathering.registry table stage reached registry)
    (others : stage ≠ .asking slot)
    (held : gathering.registry.content slot ≠ .vacant) :
    registry.content slot = gathering.registry.content slot := by
  cases move with
  | joined | evicted => simp
  | served => rfl
  | began vacant =>
      exact Registry.content_put_of_ne fun same => held (same ▸ vacant)
  | succeeded | gaveUp =>
      exact Registry.content_put_of_ne fun same => others (by rw [same])

/-- A slot is filled already, or filled by the caller that has its answer. -/
theorem filled_before (sound : gathering.Sound)
    (here : gathering.callers[number]? = some ⟨table, stage⟩)
    (move : Caller.Move answer gathering.registry table stage reached registry)
    (filled : registry.content slot = .filled found) :
    gathering.registry.content slot = .filled found ∨
      stage = .asking slot ∧ Caller.tableOf table answer = .ok found := by
  have own (place : Nat) (holds : stage.slot? = some place)
      (content : SlotContent) (same : slot = place) :
      (gathering.registry.put place content).content slot = content := by
    subst same
    exact Registry.content_put_self
      (sound.made table slot (refers_of_caller here holds))
  cases move with
  | joined | evicted => exact .inl (by simpa using filled)
  | served => exact .inl filled
  | @began place _ | @gaveUp place _ _ =>
      by_cases same : slot = place
      · rw [own place rfl _ same] at filled
        cases filled
      · rw [Registry.content_put_of_ne same] at filled
        exact .inl filled
  | @succeeded place _ outcome =>
      by_cases same : slot = place
      · rw [own place rfl _ same] at filled
        cases filled
        exact .inr ⟨by rw [same], outcome⟩
      · rw [Registry.content_put_of_ne same] at filled
        exact .inl filled

theorem keeps_filled (sound : gathering.Sound)
    (here : gathering.callers[number]? = some ⟨table, stage⟩)
    (move : Caller.Move answer gathering.registry table stage reached registry)
    (named : gathering.registry.slotOf? name = some slot)
    (filled : gathering.registry.content slot = .filled found) :
    registry.slotOf? name = some slot ∧
      registry.content slot = .filled found := by
  have notAsking : stage ≠ .asking slot := by
    rintro rfl
    have busy := sound.busy number table slot here
    rw [filled] at busy
    cases busy
  refine ⟨?_, by
    rw [content_of_not_asking move notAsking (by simp [filled]), filled]⟩
  cases move with
  | joined =>
      rw [Registry.slotOf?_claim]
      split
      · next same => rw [← same, Registry.claim_of_slotOf? named]
      · exact named
  | evicted => exact Registry.slotOf?_evict_of_filled named filled
  | served | began | succeeded | gaveUp => exact named

private theorem Sound.step (sound : gathering.Sound)
    (here : gathering.callers[number]? = some ⟨table, stage⟩)
    (move :
      Caller.Move answer gathering.registry table stage reached registry) :
    Sound ⟨registry, gathering.callers.set number ⟨table, reached⟩⟩ where
  made := by
    intro name slot refers
    rcases refers.before here move with old | ⟨_, _, _, made⟩
    · exact Nat.lt_of_lt_of_le (sound.made name slot old) (length_slots_le move)
    · exact made
  owned := by
    intro name other slot refers others
    rcases refers.before here move with old | ⟨same, fresh, _⟩
    · rcases others.before here move with otherOld | ⟨_, fresh, _⟩
      · exact sound.owned name other slot old otherOld
      · exact absurd (sound.made name slot old) (by omega)
    · rcases others.before here move with otherOld | ⟨otherSame, _⟩
      · exact absurd (sound.made other slot otherOld) (by omega)
      · rw [same, otherSame]
  busy := by
    intro place name slot asking
    rcases caller_before asking with ⟨rfl, same⟩ | ⟨different, old⟩
    · cases same
      cases move with
      | began vacant =>
          exact Registry.content_put_self
            (sound.made _ _ (refers_of_caller here rfl))
    · have busy := sound.busy place name slot old
      have notMover : stage ≠ .asking slot := by
        rintro rfl
        exact different (sound.alone place number name table slot old here)
      rw [content_of_not_asking move notMover (by simp [busy]), busy]
  alone := by
    intro place another name others slot asking otherAsking
    have begins {place : Nat} {name : String} (same : reached = .asking slot)
        (old : gathering.callers[place]? = some ⟨name, .asking slot⟩) :
        False := by
      subst same
      cases move with
      | began vacant =>
          have busy := sound.busy place name slot old
          rw [vacant] at busy
          cases busy
    rcases caller_before asking with ⟨rfl, same⟩ | ⟨_, old⟩
    · rcases caller_before otherAsking with ⟨rfl, _⟩ | ⟨_, otherOld⟩
      · rfl
      · exact (begins (congrArg Caller.stage same).symm otherOld).elim
    · rcases caller_before otherAsking with ⟨rfl, same⟩ | ⟨_, otherOld⟩
      · exact (begins (congrArg Caller.stage same).symm old).elim
      · exact sound.alone place another name others slot old otherOld

end Step

theorem Sound.after (sound : gathering.Sound) (turn : Turn) :
    (gathering.after turn).Sound := by
  rcases after_cases gathering turn with
    ⟨passed, _⟩ | ⟨_, _, _, _, here, move, moved⟩
  · rwa [passed]
  · rw [moved]
    exact sound.step here move

theorem sound_arriving (tables : List String) : (arriving tables).Sound := by
  have nothing (name : String) (slot : Nat) :
      ¬ (arriving tables).Refers name slot := by
    rintro (named | ⟨caller, member, _, holds⟩)
    · cases named
    · obtain ⟨table, _, rfl⟩ := List.mem_map.mp member
      cases holds
  have notAsking (number : Nat) (table : String) (slot : Nat) :
      (arriving tables).callers[number]? ≠ some ⟨table, .asking slot⟩ := by
    intro asking
    exact nothing table slot (refers_of_caller asking rfl)
  exact ⟨fun name slot refers => (nothing name slot refers).elim,
    fun name _ slot refers _ => (nothing name slot refers).elim,
      fun number table slot asking => (notAsking number table slot asking).elim,
        fun number _ table _ slot asking _ =>
          (notAsking number table slot asking).elim⟩

theorem run_concat (gathering : Gathering) (turns : List Turn) (last : Turn) :
    gathering.run (turns ++ [last]) = (gathering.run turns).after last := by
  rw [run, List.foldl_append]
  rfl

theorem run_append (gathering : Gathering) (earlier later : List Turn) :
    gathering.run (earlier ++ later) = (gathering.run earlier).run later :=
  List.foldl_append

theorem Sound.run (sound : gathering.Sound) (turns : List Turn) :
    (gathering.run turns).Sound := by
  induction turns using List.reverseRecOn with
  | nil => exact sound
  | append_singleton turns last induction =>
      rw [run_concat]
      exact induction.after last

theorem run_keeps_filled (sound : gathering.Sound) (turns : List Turn)
    (named : gathering.registry.slotOf? name = some slot)
    (filled : gathering.registry.content slot = .filled found) :
    (gathering.run turns).registry.slotOf? name = some slot ∧
      (gathering.run turns).registry.content slot = .filled found := by
  induction turns using List.reverseRecOn with
  | nil => exact ⟨named, filled⟩
  | append_singleton turns last induction =>
      rw [run_concat]
      rcases after_cases (gathering.run turns) last with
        ⟨passed, _⟩ | ⟨_, _, _, _, here, move, moved⟩
      · rwa [passed]
      · rw [moved]
        exact keeps_filled (sound.run turns) here move induction.1 induction.2

theorem introspections_append (gathering : Gathering)
    (earlier later : List Turn) : gathering.introspections (earlier ++ later) =
      gathering.introspections earlier ++
        (gathering.run earlier).introspections later := by
  induction earlier generalizing gathering with
  | nil => rfl
  | cons turn earlier induction =>
      rw [List.cons_append, introspections, introspections, induction,
        List.append_assoc]
      rfl

theorem introspections_concat (gathering : Gathering) (turns : List Turn)
    (last : Turn) : gathering.introspections (turns ++ [last]) =
      gathering.introspections turns ++
        ((gathering.run turns).introspection? last).toList := by
  rw [introspections_append, introspections, introspections, List.append_nil]

theorem exists_of_mem_introspections {introspection : Introspection}
    {turns : List Turn}
    (member : introspection ∈ gathering.introspections turns) :
    ∃ earlier last later, turns = earlier ++ last :: later ∧
      (gathering.run earlier).introspection? last = some introspection := by
  induction turns generalizing gathering with
  | nil => cases member
  | cons turn turns induction =>
      rcases List.mem_append.mp member with first | rest
      · exact ⟨[], turn, turns, rfl, Option.mem_toList.mp first⟩
      · obtain ⟨earlier, last, later, rfl, ended⟩ := induction rest
        exact ⟨turn :: earlier, last, later, rfl, ended⟩

theorem successes_append (name : String) (first second : List Introspection) :
    Introspection.successes name (first ++ second) =
      Introspection.successes name first +
        Introspection.successes name second :=
  List.countP_append

theorem successes_pos_iff {introspections : List Introspection} :
    0 < Introspection.successes name introspections ↔
      ∃ introspection ∈ introspections, ∃ found,
        introspection.Found name found := by
  rw [Introspection.successes, List.countP_pos_iff]
  refine exists_congr fun introspection => and_congr_right fun _ => ?_
  cases outcome : introspection.outcome <;>
    simp [Introspection.Found, outcome, Except.isOk, Except.toBool]

/-- What is in slots and what callers came back with was answered by the
database, and an answer that reached a slot with a name stays there. -/
structure Recalls (gathering : Gathering)
    (past : List Introspection) : Prop where
  filled : ∀ name slot found, gathering.Refers name slot →
    gathering.registry.content slot = .filled found →
      ∃ introspection ∈ past, introspection.slot = slot ∧
        introspection.Found name found
  returned : ∀ name found, gathering.Returned name found →
    ∃ introspection ∈ past, introspection.Found name found
  kept : ∀ introspection ∈ past, introspection.named = true →
    ∀ name found, introspection.Found name found →
      gathering.registry.slotOf? name = some introspection.slot ∧
        gathering.registry.content introspection.slot = .filled found

theorem introspection?_of_asking {table : String}
    (here : gathering.callers[turn.caller]? = some ⟨table, .asking slot⟩) :
    gathering.introspection? turn =
      some ⟨turn.caller, table, slot, Caller.tableOf table turn.answer,
        gathering.registry.slotOf? table = some slot⟩ := by
  simp [introspection?, here]

theorem asking_of_introspection? {introspection : Introspection}
    (ended : gathering.introspection? turn = some introspection) :
    gathering.callers[turn.caller]? =
        some ⟨introspection.table, .asking introspection.slot⟩ ∧
      introspection.outcome = Caller.tableOf introspection.table turn.answer ∧
        (introspection.named = true ↔
          gathering.registry.slotOf? introspection.table =
            some introspection.slot) := by
  obtain ⟨⟨table, stage⟩, here, asked⟩ := Option.bind_eq_some_iff.mp ended
  cases stage with
  | asking slot =>
      cases asked
      exact ⟨here, rfl, decide_eq_true_iff⟩
  | arriving | waiting | failed | done => cases asked

theorem Recalls.after (recalls : gathering.Recalls past)
    (sound : gathering.Sound) (turn : Turn) :
    (gathering.after turn).Recalls
      (past ++ (gathering.introspection? turn).toList) := by
  rcases after_cases gathering turn with
    ⟨passed, nothing⟩ | ⟨table, stage, reached, registry, here, move, moved⟩
  · simpa [passed, nothing] using recalls
  have answered {slot : Nat} {found : Table} (asking : stage = .asking slot)
      (outcome : Caller.tableOf table turn.answer = .ok found) :
      ∃ introspection ∈ past ++ (gathering.introspection? turn).toList,
        introspection.slot = slot ∧ introspection.Found table found := by
    subst asking
    rw [introspection?_of_asking here]
    exact ⟨_, List.mem_append_right past List.mem_cons_self, rfl, rfl, outcome⟩
  have before {name : String} {slot : Nat} {found : Table}
        (refers : gathering.Refers name slot)
        (filled : gathering.registry.content slot = .filled found) :
      ∃ introspection ∈ past ++ (gathering.introspection? turn).toList,
        introspection.slot = slot ∧ introspection.Found name found := by
    obtain ⟨introspection, member, found⟩ :=
      recalls.filled name slot found refers filled
    exact ⟨introspection, List.mem_append_left _ member, found⟩
  rw [moved]
  refine ⟨?filled, ?returned, ?kept⟩
  case filled =>
    intro name slot found refers filled
    rcases filled_before sound here move filled with old | ⟨asking, outcome⟩
    · rcases refers.before here move with oldRefers | ⟨_, fresh, _⟩
      · exact before oldRefers old
      · rw [Registry.content_of_length_le (Nat.le_of_eq fresh.symm)] at old
        cases old
    · have owner := refers_of_caller here (by rw [asking]; rfl)
      rcases refers.before here move with oldRefers | ⟨_, fresh, _⟩
      · rw [sound.owned name table slot oldRefers owner]
        exact answered asking outcome
      · exact absurd (sound.made table slot owner) (by omega)
  case returned =>
    intro name found returned
    rcases List.mem_or_eq_of_mem_set returned with old | new
    · obtain ⟨introspection, member, found⟩ := recalls.returned name found old
      exact ⟨introspection, List.mem_append_left _ member, found⟩
    · cases new
      cases move with
      | served filled =>
          obtain ⟨introspection, member, _, found⟩ :=
            before (refers_of_caller here rfl) filled
          exact ⟨introspection, member, found⟩
      | succeeded outcome =>
          obtain ⟨introspection, member, _, found⟩ := answered rfl outcome
          exact ⟨introspection, member, found⟩
  case kept =>
    intro introspection member named name found known
    rcases List.mem_append.mp member with old | new
    · obtain ⟨stillNamed, filled⟩ :=
        recalls.kept introspection old named name found known
      exact keeps_filled sound here move stillNamed filled
    · obtain ⟨asking, outcome, stillNamed⟩ :=
        asking_of_introspection? (Option.mem_toList.mp new)
      obtain ⟨rfl, succeeded⟩ := known
      cases here.symm.trans asking
      have made := sound.made _ _ (refers_of_caller here rfl)
      cases move with
      | succeeded outcomeMoved =>
          cases succeeded.symm.trans (outcome.trans outcomeMoved)
          exact ⟨stillNamed.mp named, Registry.content_put_self made⟩
      | gaveUp outcomeMoved =>
          cases succeeded.symm.trans (outcome.trans outcomeMoved)

theorem recalls_run (tables : List String) (turns : List Turn) :
    ((arriving tables).run turns).Recalls
      ((arriving tables).introspections turns) := by
  induction turns using List.reverseRecOn with
  | nil =>
      refine ⟨?_, ?_, fun introspection member => by cases member⟩
      · intro name slot found _ filled
        cases filled
      · intro name found returned
        obtain ⟨_, _, stands⟩ := List.mem_map.mp returned
        cases stands
  | append_singleton turns last induction =>
      rw [run_concat, introspections_concat]
      exact induction.after ((sound_arriving tables).run turns) last

end Gathering

end RecordSql
