import RecordSql.Proofs.Database.Agreement

/-!
# What the translation of errors changes

Whether errors are translated decides the wording of a failure that the driver
reports with a known code, and nothing else: not its kind, its violation, its
code or its source, and so not what is passed over or sent next.
-/

namespace RecordSql

namespace Failure

/-- The part of the message that an error brings with it. -/
def wording? : Failure → Option String
  | queryFailed message _ _ | constraintViolated _ message _ _ => some message
  | _ => none

/-- A failure without the wording of its error. -/
def unworded : Failure → Failure
  | queryFailed _ code source => queryFailed "" code source
  | constraintViolated violation _ code source =>
      constraintViolated violation "" code source
  | failure => failure

def isViolation : Failure → Bool
  | constraintViolated .. => true
  | _ => false

theorem isViolation_unworded (failure : Failure) :
    failure.unworded.isViolation = failure.isViolation := by
  cases failure <;> rfl

/-- Failures with and without translation.  Only the wording differs, and that
only where the dialect knows the code. -/
structure Reworded (dialect : Dialect) (on off : Failure) : Prop where
  same : on.unworded = off.unworded
  known : ∀ error entry, on.source? = some error →
    error.code.bind dialect.code? = some entry →
    on.wording? = some entry.message ∧ off.wording? = some error.message
  unknown : (∀ error entry, on.source? = some error →
    error.code.bind dialect.code? ≠ some entry) → on = off

variable {dialect : Dialect}

theorem reworded_of_unreported {failure : Failure}
    (unreported : failure.isReported = false) :
    Reworded dialect failure failure where
  same := rfl
  known error entry given := by
    cases failure with
    | queryFailed | constraintViolated => cases unreported
    | _ => cases given
  unknown _ := rfl

theorem reworded_ofDriver (dialect : Dialect) (error : DriverError) :
    Reworded dialect (ofDriver dialect true error)
      (ofDriver dialect false error) := by
  have source := (ofDriver_reports dialect true error).2.1
  constructor
  case same =>
    unfold ofDriver
    split
    · rfl
    · dsimp only
      split <;> rfl
  case known =>
    intro given entry isSource found
    rw [source, Option.some.injEq] at isSource
    subst isSource
    unfold ofDriver
    rw [found]
    dsimp only
    split <;> exact ⟨rfl, rfl⟩
  case unknown =>
    intro unknown
    have notFound := Option.eq_none_iff_forall_ne_some.mpr fun entry =>
      unknown error entry source
    unfold ofDriver
    rw [notFound]

end Failure

/-- What is passed over depends on the kind of a failure alone. -/
theorem TableHandle.passOver_error (handle : TableHandle) (failure : Failure) :
    handle.passOver (.error failure) =
      if failure.isViolation &&
      handle.database.dialect.insertIgnoring?.isNone then .ok 0
      else .error failure := by
  cases failure <;> simp [passOver, Failure.isViolation]

/-- The settings with error translation switched on or off. -/
def Settings.translating (settings : Settings) (translated : Bool) : Settings :=
  { settings with translateErrors := translated }

def Database.translating (database : Database) (translated : Bool) : Database :=
  ⟨database.settings.translating translated⟩

namespace Comparison

/-- Statements are the same, the driver may report any error, and failures
differ in their wording. -/
def reworded (dialect : Dialect) : Comparison where
  statements := Eq
  errors _ := True
  failures := Failure.Reworded dialect

theorem reworded_databases (database : Database) :
    (reworded database.dialect).Databases (database.translating true)
      (database.translating false) where
  composers := .refl (fun _ => rfl) (fun _ _ equal => equal) database.composer
  formats := rfl
  refused _ unreported := Failure.reworded_of_unreported unreported
  reported error _ := Failure.reworded_ofDriver database.dialect error
  passedOver table on off reworded := by
    have sameKind : on.isViolation = off.isViolation := by
      rw [← Failure.isViolation_unworded on, reworded.same,
        Failure.isViolation_unworded]
    have sameDialect : (database.translating true).dialect =
        (database.translating false).dialect :=
      rfl
    rw [TableHandle.passOver_error, TableHandle.passOver_error,
      sameKind, sameDialect]
    split
    · exact .ok rfl
    · exact .error reworded

end Comparison

end RecordSql
