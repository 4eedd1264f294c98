import Mathlib.Data.List.Forall2

/-!
# Outcomes

Composing a statement ends at the first refusal.  These are the inversions
of that sequencing: what is known of the steps when the whole succeeds, and
when it is refused.
-/

namespace RecordSql.Outcome

variable {ε α β : Type}

theorem bind_eq_ok_iff {outcome : Except ε α} {next : α → Except ε β}
    {result : β} : (outcome >>= next) = .ok result ↔
      ∃ value, outcome = .ok value ∧ next value = .ok result := by
  cases outcome with
  | error refusal => simp [bind, Except.bind]
  | ok value => simp [bind, Except.bind]

theorem bind_eq_error_iff {outcome : Except ε α} {next : α → Except ε β}
    {refusal : ε} : (outcome >>= next) = .error refusal ↔
      outcome = .error refusal ∨
        ∃ value, outcome = .ok value ∧ next value = .error refusal := by
  cases outcome with
  | error refusal => simp [bind, Except.bind]
  | ok value => simp [bind, Except.bind]

theorem map_eq_ok_iff {outcome : Except ε α} {change : α → β} {result : β} :
    change <$> outcome = .ok result ↔
      ∃ value, outcome = .ok value ∧ change value = result := by
  cases outcome with
  | error refusal => simp [Functor.map, Except.map]
  | ok value => simp [Functor.map, Except.map]

theorem map_eq_error_iff {outcome : Except ε α} {change : α → β} {refusal : ε} :
    change <$> outcome = .error refusal ↔ outcome = .error refusal := by
  cases outcome with
  | error other => simp [Functor.map, Except.map]
  | ok value => simp [Functor.map, Except.map]

theorem mapError_eq_ok_iff {δ : Type} {outcome : Except ε α} {change : ε → δ}
    {result : α} :
    outcome.mapError change = .ok result ↔ outcome = .ok result := by
  cases outcome <;> simp [Except.mapError]

theorem mapError_eq_error_iff {δ : Type} {outcome : Except ε α} {change : ε → δ}
    {refusal : δ} : outcome.mapError change = .error refusal ↔
      ∃ cause, outcome = .error cause ∧ change cause = refusal := by
  cases outcome <;> simp [Except.mapError]

theorem mapM_eq_ok_iff {step : α → Except ε β} {items : List α}
    {results : List β} : items.mapM step = .ok results ↔
      List.Forall₂
        (fun item result => step item = .ok result) items results := by
  induction items generalizing results with
  | nil =>
      constructor
      · intro succeeded
        cases succeeded
        exact .nil
      · intro related
        cases related
        rfl
  | cons first rest induction =>
      rw [List.mapM_cons, bind_eq_ok_iff]
      constructor
      · rintro ⟨value, firstOk, continued⟩
        obtain ⟨values, restOk, combined⟩ := bind_eq_ok_iff.mp continued
        cases combined
        exact .cons firstOk (induction.mp restOk)
      · intro related
        cases related with
        | cons firstOk restOk =>
            exact ⟨_, firstOk,
              bind_eq_ok_iff.mpr ⟨_, induction.mpr restOk, rfl⟩⟩

theorem forall_of_mapM_eq_ok {step : α → Except ε β} {items : List α}
    {results : List β} {property : β → Prop}
    (each : ∀ item result, step item = .ok result → property result)
    (succeeded : items.mapM step = .ok results) :
    ∀ result ∈ results, property result := by
  have related := mapM_eq_ok_iff.mp succeeded
  clear succeeded
  induction related with
  | nil => simp
  | cons firstOk _ induction =>
      exact List.forall_mem_cons.mpr ⟨each _ _ firstOk, induction⟩

theorem exists_mapM_eq_ok_iff {step : α → Except ε β} {items : List α} :
    (∃ results, items.mapM step = .ok results) ↔
      ∀ item ∈ items, ∃ result, step item = .ok result := by
  induction items with
  | nil =>
      constructor
      · intro _ item member
        cases member
      · intro _
        exact ⟨[], rfl⟩
  | cons first rest induction =>
      rw [List.forall_mem_cons, ← induction]
      constructor
      · rintro ⟨results, succeeded⟩
        cases mapM_eq_ok_iff.mp succeeded with
        | cons firstOk restOk =>
            exact ⟨⟨_, firstOk⟩, _, mapM_eq_ok_iff.mpr restOk⟩
      · rintro ⟨⟨result, firstOk⟩, results, restOk⟩
        exact ⟨result :: results,
          mapM_eq_ok_iff.mpr (.cons firstOk (mapM_eq_ok_iff.mp restOk))⟩

/-- Of several refusals the first counts. -/
theorem mapM_eq_error_iff {step : α → Except ε β} {items : List α}
    {refusal : ε} : items.mapM step = .error refusal ↔
      ∃ before item after, items = before ++ item :: after ∧
        (∀ earlier ∈ before, ∃ result, step earlier = .ok result) ∧
        step item = .error refusal := by
  induction items with
  | nil =>
      constructor
      · intro refused
        cases refused
      · rintro ⟨before, item, after, split, _⟩
        simp at split
  | cons first rest induction =>
      rw [List.mapM_cons, bind_eq_error_iff]
      constructor
      · rintro (firstRefused | ⟨value, firstOk, continued⟩)
        · exact ⟨[], first, rest, rfl, by simp, firstRefused⟩
        · rcases bind_eq_error_iff.mp continued with
            restRefused | ⟨values, _, combined⟩
          · obtain ⟨before, item, after, rfl, earlierOk, refused⟩ :=
              induction.mp restRefused
            refine ⟨first :: before, item, after, rfl, ?_, refused⟩
            exact List.forall_mem_cons.mpr ⟨⟨value, firstOk⟩, earlierOk⟩
          · cases combined
      · rintro ⟨before, item, after, split, earlierOk, refused⟩
        cases before with
        | nil =>
            cases split
            exact .inl refused
        | cons earlier before =>
            cases split
            obtain ⟨⟨value, firstOk⟩, restOk⟩ :=
              List.forall_mem_cons.mp earlierOk
            have restRefused :=
              induction.mpr ⟨before, item, after, rfl, restOk, refused⟩
            exact .inr ⟨value, firstOk,
              bind_eq_error_iff.mpr (.inl restRefused)⟩

theorem exists_of_mapM_eq_error {step : α → Except ε β} {items : List α}
    {refusal : ε} (refused : items.mapM step = .error refusal) :
    ∃ item ∈ items, step item = .error refusal := by
  obtain ⟨before, item, after, rfl, _, itemRefused⟩ :=
    mapM_eq_error_iff.mp refused
  exact ⟨item, by simp, itemRefused⟩

end RecordSql.Outcome
