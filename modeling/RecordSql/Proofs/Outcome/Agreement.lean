import Mathlib.Data.List.Forall2

/-!
# Outcomes of two runs

Two runs agree if both succeed with related values, or both end with related
refusals. Sequencing, mapping and traversing a list keep the agreement.
-/

namespace RecordSql.Outcome

variable {ε δ α β γ κ : Type} {Refusals : ε → δ → Prop} {Values : α → β → Prop}
  {Results : γ → κ → Prop}

/-- Both succeed with related values, or both are refused for
related reasons. -/
inductive Agree (Refusals : ε → δ → Prop) (Values : α → β → Prop) :
    Except ε α → Except δ β → Prop where
  | ok {first : α} {second : β} :
      Values first second → Agree Refusals Values (.ok first) (.ok second)
  | error {first : ε} {second : δ} :
      Refusals first second →
        Agree Refusals Values (.error first) (.error second)

namespace Agree

variable {first : Except ε α} {second : Except δ β}

theorem refl {Refusals : ε → ε → Prop} {Values : α → α → Prop}
    (refusals : ∀ refusal, Refusals refusal refusal)
    (values : ∀ value, Values value value) (outcome : Except ε α) :
    Agree Refusals Values outcome outcome := by
  cases outcome with
  | ok value => exact .ok (values value)
  | error refusal => exact .error (refusals refusal)

theorem same (outcome : Except ε α) : Agree Eq Eq outcome outcome :=
  refl (fun _ => rfl) (fun _ => rfl) outcome

/-- The values of two runs may be related in another way if these
runs have them. -/
theorem imp {Others : α → β → Prop} (agree : Agree Refusals Values first second)
    (implied : ∀ left right, first = .ok left → second = .ok right →
      Values left right →
      Others left right) : Agree Refusals Others first second := by
  cases agree with
  | ok related => exact .ok (implied _ _ rfl rfl related)
  | error related => exact .error related

theorem bind {next : α → Except ε γ} {other : β → Except δ κ}
    (agree : Agree Refusals Values first second)
    (continued : ∀ left right, Values left right →
      Agree Refusals Results (next left) (other right)) :
    Agree Refusals Results (first >>= next) (second >>= other) := by
  cases agree with
  | ok related => exact continued _ _ related
  | error related => exact .error related

theorem map {change : α → γ} {other : β → κ}
    (agree : Agree Refusals Values first second)
    (changed : ∀ left right, Values left right →
      Results (change left) (other right)) :
    Agree Refusals Results (first.map change) (second.map other) := by
  cases agree with
  | ok related => exact .ok (changed _ _ related)
  | error related => exact .error related

theorem mapError {ε' δ' : Type} {Failures : ε' → δ' → Prop} {change : ε → ε'}
    {other : δ → δ'} (agree : Agree Refusals Values first second)
    (changed : ∀ left right, Refusals left right →
      Failures (change left) (other right)) :
    Agree Failures Values (first.mapError change) (second.mapError other) := by
  cases agree with
  | ok related => exact .ok related
  | error related => exact .error (changed _ _ related)

/-- Two traversals of one list agree if their steps do. -/
theorem mapM {ι : Type} {step : ι → Except ε α} {other : ι → Except δ β}
    (steps : ∀ item, Agree Refusals Values (step item) (other item))
    (items : List ι) :
    Agree Refusals (List.Forall₂ Values) (items.mapM step)
      (items.mapM other) := by
  induction items with
  | nil => exact .ok .nil
  | cons item items induction =>
      rw [List.mapM_cons, List.mapM_cons]
      apply (steps item).bind
      intro left right headRelated
      apply induction.bind
      intro lefts rights tailRelated
      exact .ok (.cons headRelated tailRelated)

end Agree

end RecordSql.Outcome
