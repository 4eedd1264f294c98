import RecordSql.Proofs.Number.Decimal
import RecordSql.Proofs.Predicate.Elements
import RecordSql.Proofs.Text

/-!
# Operands that conditions take

A condition is composed, or refused for an operand that its operator cannot use,
or for an element of a list that does not read as a number where the column
holds numbers.  Which of these it is can be told from the operator, the operands
and the kind of the column.  The operands that are taken become parameters:
none, one, two in their order, or one for each element of a list.
-/

namespace RecordSql

/-- A value that nothing can be compared with. -/
def Value.isIncomparable : Value → Bool
  | null => true
  | double value => !value.isFinite
  | _ => false

/-- A value without a text that could be matched with a pattern. -/
def Value.lacksText : Value → Bool
  | null | binary _ => true
  | double value => !value.isFinite
  | _ => false

/-- A text is written for a whole number of 64 bits, or for a finite double. -/
def readsAsNumber (text : String) : Bool :=
  (Number.int64? text.toList).isSome || (doubleOfText? text.toList).isSome

/-- Composing ends with a result, or is refused for an operand or for a text
that is no number in a column of numbers. -/
inductive Ends {α : Type} (unusable : Prop) (misread : Column → String → Prop)
    (taken : α → Prop) : Except Fault α → Prop where
  | unusable (detail : String) (because : unusable) :
      Ends unusable misread taken (.error (.unsupportedOperand detail))
  | misread (column : Column) (text : String) (because : misread column text) :
      Ends unusable misread taken
        (.error (.invalidValue column.name column.kind.name text))
  | taken (result : α) (usable : ¬ unusable)
      (read : ∀ column text, ¬ misread column text) (takes : taken result) :
      Ends unusable misread taken (.ok result)

namespace Ends

variable {α β : Type} {first : Prop} {misread : Column → String → Prop}
  {taken : α → Prop} {further : β → Prop} {outcome : Except Fault α}

/-- What follows the elements of a list does not read any. -/
theorem bind {next : α → Except Fault β}
    (ends : Ends first misread taken outcome) (second : Prop)
    (continues : ∀ result, taken result →
      Ends second (fun _ _ => False) further (next result)) :
    Ends (first ∨ second) misread further (outcome >>= next) := by
  cases ends with
  | unusable detail because => exact .unusable detail (.inl because)
  | misread column text because => exact .misread column text because
  | taken result usable read takes =>
      have continued := continues result takes
      change Ends (first ∨ second) misread further (next result)
      generalize next result = outcome at continued ⊢
      cases continued with
      | unusable detail because => exact .unusable detail (.inr because)
      | misread column text because => exact because.elim
      | taken last lastUsable _ lastTakes =>
          exact .taken last (not_or.mpr ⟨usable, lastUsable⟩) read lastTakes

theorem congr {second : Prop} {alike : Column → String → Prop}
    (ends : Ends first misread taken outcome) (same : first ↔ second)
    (reads : ∀ column text, misread column text ↔ alike column text) :
    Ends second alike taken outcome := by
  have equal : misread = alike :=
    funext₂ fun column text => propext (reads column text)
  rwa [← propext same, ← equal]

theorem mapM {step : α → Except Fault β} {misreads : α → Column → String → Prop}
    {items : List α} (each : ∀ item ∈ items,
      Ends False (misreads item)
        (fun result => step item = .ok result) (step item)) :
    Ends False (fun column text => ∃ item ∈ items, misreads item column text)
      (fun results =>
        List.Forall₂ (fun item result => step item = .ok result) items results)
      (items.mapM step) := by
  cases ended : items.mapM step with
  | ok results =>
      refine .taken results id ?_ (Outcome.mapM_eq_ok_iff.mp ended)
      rintro column text ⟨item, member, because⟩
      obtain ⟨result, stepOk⟩ :=
        Outcome.exists_mapM_eq_ok_iff.mp ⟨results, ended⟩ item member
      have itemEnds := each item member
      rw [stepOk] at itemEnds
      cases itemEnds with
      | taken _ _ read _ => exact read column text because
  | error fault =>
      obtain ⟨item, member, refused⟩ := Outcome.exists_of_mapM_eq_error ended
      have itemEnds := each item member
      rw [refused] at itemEnds
      cases itemEnds with
      | unusable detail because => exact because.elim
      | misread column text because =>
          exact .misread column text ⟨item, member, because⟩

/-- What is taken is made into something else. -/
theorem map {change : α → β} (ends : Ends first misread taken outcome)
    (changes : ∀ result, taken result → further (change result)) :
    Ends first misread further
      (outcome >>= fun result => pure (change result)) := by
  cases ends with
  | unusable detail because => exact .unusable detail because
  | misread column text because => exact .misread column text because
  | taken result usable read takes =>
      exact .taken _ usable read (changes result takes)

theorem exists_ok (ends : Ends first misread taken outcome) (usable : ¬ first)
    (read : ∀ column text, ¬ misread column text) :
    ∃ result, outcome = .ok result ∧ taken result := by
  cases ends with
  | unusable detail because => exact absurd because usable
  | misread column text because => exact absurd because (read column text)
  | taken result _ _ takes => exact ⟨result, rfl, takes⟩

section Apart

variable (ends : Ends first misread taken outcome)
  (apart : ∀ column text, misread column text → ¬ first)

include ends apart

theorem unusable_iff :
    (∃ detail, outcome = .error (.unsupportedOperand detail)) ↔ first := by
  constructor
  · rintro ⟨detail, rfl⟩
    cases ends with
    | unusable _ because => exact because
  · intro because
    cases ends with
    | unusable detail _ => exact ⟨detail, rfl⟩
    | misread column text misreads =>
        exact absurd because (apart column text misreads)
    | taken _ usable _ _ => exact absurd because usable

theorem misread_iff :
    (∃ name expected found,
        outcome = .error (.invalidValue name expected found)) ↔
      (∃ column text, misread column text) ∧ ¬ first := by
  constructor
  · rintro ⟨name, expected, found, rfl⟩
    cases ends with
    | misread column _ because =>
        exact ⟨⟨column, found, because⟩, apart column found because⟩
  · rintro ⟨⟨column, text, because⟩, usable⟩
    cases ends with
    | unusable _ unusable => exact absurd unusable usable
    | misread column text _ => exact ⟨column.name, column.kind.name, text, rfl⟩
    | taken _ _ read _ => exact absurd because (read column text)

end Apart

end Ends

namespace Composer

variable {composer : Composer} {column : Option Column} {condition : Condition}

private theorem exists_operand {operator : Operator} {value : Value}
    (comparable : value.isIncomparable = false) :
    ∃ param, composer.operand column operator value = .ok param := by
  have own : ∃ param, composer.formats.bindOperand value = .ok param := by
    cases value with
    | null => cases comparable
    | double value =>
        have finite : value.isFinite = true := by
          simpa [Value.isIncomparable] using comparable
        exact ⟨.double value, by simp [Formats.bindOperand, finite]⟩
    | boolean _ | integer _ | dateTime _ | date _ | string _ | binary _ =>
        exact ⟨_, rfl⟩
  have ofColumn : ∀ column : Column, column.kind.isTemporal = true →
      ∃ param, composer.formats.bind value column = .ok param := by
    intro column temporal
    cases kind : column.kind
    case date | dateTime => cases value <;> simp [Formats.bind, kind]
    all_goals
      rw [kind] at temporal
      cases temporal
  unfold operand
  split
  · cases comparable
  iterate 3
    · split
      · next temporal => exact ofColumn _ temporal
      · exact own
  · exact own

theorem ends_operand (composer : Composer) (column : Option Column)
    (operator : Operator) (value : Value) :
    Ends (value.isIncomparable = true) (fun _ _ => False)
      (fun param => composer.operand column operator value = .ok param)
      (composer.operand column operator value) := by
  cases comparable : value.isIncomparable with
  | false =>
      obtain ⟨param, bound⟩ :=
        @exists_operand composer column operator value comparable
      rw [bound]
      exact .taken param Bool.false_ne_true (fun _ _ none => none) rfl
  | true =>
      cases value with
      | null => exact .unusable _ rfl
      | double value =>
          have infinite : value.isFinite = false := by
            simpa [Value.isIncomparable] using comparable
          have refused : composer.operand column operator (.double value) =
              .error
                (.unsupportedOperand ("non-finite double " ++ value.text)) := by
            simp [operand, Formats.bindOperand, infinite]
          rw [refused]
          exact .unusable _ rfl
      | boolean _ | integer _ | dateTime _ | date _ | string _ | binary _ =>
          cases comparable

theorem ends_patternText (composer : Composer) (operator : Operator)
    (value : Value) :
    Ends (value.lacksText = true) (fun _ _ => False)
      (· = composer.formats.plainText value)
      (composer.patternText operator value) := by
  cases value with
  | null | binary _ => exact .unusable _ rfl
  | double value =>
      simp only [patternText, Value.lacksText]
      cases value.isFinite with
      | false => exact .unusable _ rfl
      | true => exact .taken _ Bool.false_ne_true (fun _ _ none => none) rfl
  | boolean _ | integer _ | dateTime _ | date _ | string _ =>
      exact .taken _ (by simp [Value.lacksText]) (fun _ _ none => none) rfl

end Composer

section Elements

variable {text : String}

private theorem toList_trimmed (trimmed : Text.trim text = text) :
    Text.trimChars text.toList = text.toList := by
  have same := congrArg String.toList trimmed
  rwa [Text.trim, String.toList_ofList] at same

private theorem whole?_string (trimmed : Text.trim text = text) :
    (Value.string text).whole?.isSome = readsAsNumber text := by
  rw [Value.whole?, toList_trimmed trimmed, wholeOfText?, readsAsNumber,
    doubleOfText?]
  cases Number.int64? text.toList with
  | some value => rfl
  | none =>
      cases Double.ofText? text.toList with
      | none => rfl
      | some double => cases double <;> rfl

private theorem finiteDouble?_string (trimmed : Text.trim text = text) :
    (Value.string text).finiteDouble?.isSome = readsAsNumber text := by
  rw [Value.finiteDouble?, toList_trimmed trimmed, readsAsNumber]
  cases whole : Number.int64? text.toList with
  | none => rfl
  | some value =>
      obtain ⟨negative, magnitude, asDouble⟩ :=
        Number.exists_finite_of_int64? whole
      rw [doubleOfText?, asDouble]
      rfl

/-- A column of numbers takes the texts that read as numbers. -/
theorem ends_bind_number {column : Column} (formats : Formats)
    (numeric : column.kind = .integer ∨ column.kind = .double)
    (trimmed : Text.trim text = text) :
    Ends False (fun numbers found =>
      numbers = column ∧ found = text ∧ readsAsNumber text = false)
      (fun param => formats.bind (.string text) column = .ok param)
      (formats.bind (.string text) column) := by
  have reading : ∃ param? : Option Param, param?.isSome = readsAsNumber text ∧
      formats.bind (.string text) column =
        param?.elim (.error (.invalidValue column.name column.kind.name text))
          .ok := by
    rcases numeric with integer | double
    · refine ⟨(Value.string text).whole?.map .integer, by
        simp [whole?_string trimmed], ?_⟩
      simp only [Formats.bind, integer]
      cases (Value.string text).whole? <;> rfl
    · refine ⟨(Value.string text).finiteDouble?.map .double,
        by simp [finiteDouble?_string trimmed], ?_⟩
      simp only [Formats.bind, double]
      cases (Value.string text).finiteDouble? <;> rfl
  obtain ⟨param?, reads, bound⟩ := reading
  rw [bound]
  cases param? with
  | none => exact .misread column text ⟨rfl, rfl, reads.symm⟩
  | some param =>
      refine .taken param id ?_ rfl
      rintro _ _ ⟨_, _, unread⟩
      rw [unread] at reads
      cases reads

end Elements

namespace Composer

theorem listElements_eq (text : String) :
    listElements text =
      ((Text.pieces ',' text).filter fun piece => !Text.isAllBlank piece).map
        Text.trim := by
  rw [listElements, List.filter_map]
  refine congrArg (List.map Text.trim) (List.filter_congr fun piece _ => ?_)
  simp [Text.trim_eq_empty_iff]

theorem listElements_eq_nil_iff {text : String} :
    listElements text = [] ↔
      ∀ piece ∈ Text.pieces ',' text, Text.isAllBlank piece = true := by
  simp [listElements_eq]

theorem mem_listElements_iff {text element : String} :
    element ∈ listElements text ↔
      ∃ piece ∈ Text.pieces ',' text,
        Text.isAllBlank piece = false ∧ element = Text.trim piece := by
  rw [listElements_eq, List.mem_map]
  constructor
  · rintro ⟨piece, kept, rfl⟩
    obtain ⟨member, shown⟩ := List.mem_filter.mp kept
    exact ⟨piece, member, by simpa using shown, rfl⟩
  · rintro ⟨piece, member, shown, rfl⟩
    exact ⟨piece, List.mem_filter.mpr ⟨member, by simp [shown]⟩, rfl⟩

/-- An element does not read as a number, and its column holds numbers. -/
def MisreadsElement (column : Option Column) (element : String)
    (numbers : Column) (found : String) : Prop :=
  column = some numbers ∧ (numbers.kind = .integer ∨ numbers.kind = .double) ∧
    found = element ∧
    readsAsNumber element = false

variable {composer : Composer} {column : Option Column}

theorem ends_elementParam {element : String}
    (trimmed : Text.trim element = element) :
    Ends False (MisreadsElement column element)
      (fun param => composer.elementParam column element = .ok param)
      (composer.elementParam column element) := by
  cases column with
  | none =>
      refine .taken _ id ?_ rfl
      rintro numbers found ⟨absent, _⟩
      cases absent
  | some column =>
      unfold elementParam
      dsimp only
      split
      · next numeric =>
          refine (ends_bind_number composer.formats numeric trimmed).congr
            Iff.rfl ?_
          intro numbers found
          constructor
          · rintro ⟨rfl, rfl, unread⟩
            exact ⟨rfl, numeric, rfl, unread⟩
          · rintro ⟨same, _, rfl, unread⟩
            exact ⟨(Option.some.inj same).symm, rfl, unread⟩
      · next other =>
          refine .taken _ id ?_ rfl
          rintro numbers _ ⟨same, numeric, _⟩
          cases same
          exact other numeric

theorem ends_listParams_string (composer : Composer) (column : Option Column)
    (operator : Operator) (text : String) :
    Ends (listElements text = [])
      (fun numbers found => ∃ element ∈ listElements text,
        MisreadsElement column element numbers found)
      (List.Forall₂ (fun element param =>
        composer.elementParam column element = .ok param) (listElements text))
      (composer.listParams column operator (.string text)) := by
  have each : ∀ element ∈ listElements text,
      Ends False (MisreadsElement column element)
        (fun param => composer.elementParam column element = .ok param)
        (composer.elementParam column element) := by
    intro element member
    obtain ⟨piece, _, _, rfl⟩ := mem_listElements_iff.mp member
    exact ends_elementParam (Text.trim_trim piece)
  refine Ends.congr ((Ends.mapM each).bind (listElements text = []) ?_)
    (iff_of_eq (false_or _)) (fun _ _ => Iff.rfl)
  intro params bound
  cases params with
  | nil => exact .unusable _ (List.forall₂_nil_right_iff.mp bound)
  | cons first rest =>
      refine .taken _ ?_ (fun _ _ => id) bound
      intro nothing
      rw [nothing] at bound
      cases bound

end Composer

namespace Condition

def column? (table : Option Table) (condition : Condition) : Option Column :=
  columnOf? table (lastSegment condition.field)

/-- The operator of a condition cannot use one of its operands, or lacks one. -/
def Unusable (formats : Formats) (condition : Condition) : Prop :=
  match condition.operator with
  | .isNull | .notNull => False
  | .equal | .notEqual | .greater | .less | .greaterOrEqual | .lessOrEqual =>
    condition.operand.isIncomparable = true
  | .contains | .startsWith | .endsWith => condition.operand.lacksText = true
  | .inList | .notInList =>
    condition.operand.isIncomparable = true ∨
      ∃ text, condition.operand = .string text ∧
        ∀ piece ∈ Text.pieces ',' text, Text.isAllBlank piece = true
  | .between | .notBetween =>
    condition.upper = none ∨ condition.operand.isIncomparable = true ∨
      ∃ upper, condition.upper = some upper ∧ upper.isIncomparable = true
  | .regexp =>
    condition.operand.lacksText = true ∨
      ∀ piece ∈ Text.pieces '|' (formats.plainText condition.operand),
        piece = ""

/-- A condition on a column of numbers has a list with an element that does
not read as one. -/
def Misreads (column : Option Column) (condition : Condition) (numbers : Column)
    (element : String) : Prop :=
  condition.operator ∈ [.inList, .notInList] ∧ column = some numbers ∧
    (numbers.kind = .integer ∨ numbers.kind = .double) ∧
    ∃ text, condition.operand = .string text ∧ ∃ piece ∈ Text.pieces ',' text,
      Text.isAllBlank piece = false ∧ element = Text.trim piece ∧
        readsAsNumber element = false

end Condition

namespace Composer

/-- The parameters that the operands of a condition become. -/
def Takes (composer : Composer) (column : Option Column) (condition : Condition)
    (params : List Param) : Prop :=
  match condition.operator with
  | .isNull | .notNull => params = []
  | .equal | .notEqual | .greater | .less | .greaterOrEqual | .lessOrEqual =>
    ∃ param,
      composer.operand column condition.operator condition.operand = .ok param ∧
        params = [param]
  | .contains | .startsWith | .endsWith =>
    params =
      [.text (likePattern condition.operator
        (composer.formats.plainText condition.operand))]
  | .inList | .notInList =>
    match condition.operand with
    | .string text =>
      List.Forall₂ (fun element param =>
        composer.elementParam column element = .ok param)
        (((Text.pieces ',' text).filter fun piece => !Text.isAllBlank piece).map
          Text.trim) params
    | operand =>
      ∃ param, composer.operand column condition.operator operand = .ok param ∧
        params = [param]
  | .between | .notBetween =>
    ∃ value lower upper, condition.upper = some value ∧
      composer.operand column condition.operator condition.operand = .ok lower ∧
      composer.operand column condition.operator value = .ok upper ∧
      params = [lower, upper]
  | .regexp =>
    params =
      [.text ("|".intercalate
        (alternatives (composer.formats.plainText condition.operand)))]

variable {composer : Composer} {column : Option Column} {condition : Condition}

private theorem not_misreads
    (other : condition.operator ∉ [.inList, .notInList]) (numbers : Column)
    (element : String) : False ↔ condition.Misreads column numbers element :=
  ⟨False.elim, fun misread => other misread.1⟩

private theorem misreads_string_iff {text found : String} {numbers : Column}
    (lists : condition.operator ∈ [.inList, .notInList])
    (given : condition.operand = .string text) :
    (∃ element ∈ listElements text,
        MisreadsElement column element numbers found) ↔
      condition.Misreads column numbers found := by
  constructor
  · rintro ⟨element, member, known, numeric, rfl, unread⟩
    obtain ⟨piece, inPieces, shown, same⟩ := mem_listElements_iff.mp member
    exact ⟨lists, known, numeric, text, given, piece, inPieces, shown,
      same, unread⟩
  · rintro ⟨_, known, numeric, other, otherGiven, piece, inPieces, shown,
      same, unread⟩
    cases given.symm.trans otherGiven
    exact ⟨found, mem_listElements_iff.mpr ⟨piece, inPieces, shown, same⟩,
      known, numeric, rfl, unread⟩

/-- A list is refused for its operand or for an element. -/
private theorem ends_listParams (composer : Composer) (column : Option Column)
    (lists : condition.operator ∈ [.inList, .notInList]) :
    Ends (condition.Unusable composer.formats) (condition.Misreads column)
      (fun params => composer.Takes column condition params)
      (composer.listParams column condition.operator condition.operand) := by
  obtain ⟨field, operator, operand, upper, logic⟩ := condition
  simp only [List.mem_cons, List.not_mem_nil, or_false] at lists
  rcases lists with rfl | rfl
  all_goals
    cases operand
    case string text =>
      simp only [Takes, ← listElements_eq]
      refine (composer.ends_listParams_string column _ text).congr ?_ ?_
      · simp [Condition.Unusable, Value.isIncomparable, listElements_eq_nil_iff]
      · exact fun _ _ => misreads_string_iff (by simp) rfl
    all_goals
      refine Ends.congr ((composer.ends_operand column _ _).map ?_) ?_ ?_
      · intro param bound
        exact ⟨param, bound, rfl⟩
      · simp [Condition.Unusable]
      · simp [Condition.Misreads]

theorem ends_comparison (composer : Composer) (column : Option Column)
    (condition : Condition) :
    Ends (condition.Unusable composer.formats) (condition.Misreads column)
      (fun statement => composer.Takes column condition statement.params)
      (composer.comparison column condition) := by
  have list := @ends_listParams condition composer column
  obtain ⟨field, operator, operand, upper, logic⟩ := condition
  cases operator
  case isNull | notNull =>
    refine .taken _ id (fun numbers element => ?_) (by simp [Takes])
    exact (not_misreads (by simp) numbers element).mpr
  case equal | notEqual | greater | less | greaterOrEqual | lessOrEqual =>
    refine Ends.congr ((composer.ends_operand column _ operand).map ?_) Iff.rfl
      (not_misreads (by simp))
    intro param bound
    exact ⟨param, bound, by simp⟩
  case contains | startsWith | endsWith =>
    refine Ends.congr ((composer.ends_patternText _ operand).map ?_) Iff.rfl
      (not_misreads (by simp))
    rintro _ rfl
    simp [Takes]
  case inList | notInList =>
    refine (list (by simp)).map ?_
    intro params takes
    simpa [params_paramList] using takes
  case between | notBetween =>
    cases upper with
    | none => exact .unusable _ (.inl rfl)
    | some value =>
        refine Ends.congr
            ((composer.ends_operand column _ operand).bind
              _ fun lower lowerBound =>
          (composer.ends_operand column _ value).map fun upper upperBound => ?_)
            ?_
          (not_misreads (by simp))
        · exact ⟨value, lower, upper, rfl, lowerBound, upperBound, by simp⟩
        · simp [Condition.Unusable]
  case regexp =>
    refine Ends.congr ((composer.ends_patternText _ operand).bind
      (alternatives (composer.formats.plainText operand) = []) ?_) ?_
      (not_misreads (by simp))
    · rintro _ rfl
      dsimp only
      split
      · next none => exact .unusable _ (List.isEmpty_iff.mp none)
      · next present =>
          exact .taken _ (mt List.isEmpty_iff.mpr present) (fun _ _ => id)
            (by simp [Takes])
    · simp [Condition.Unusable, alternatives]

theorem ends_condition (composer : Composer) (table : Option Table)
    (condition : Condition) :
    Ends (condition.Unusable composer.formats)
      (condition.Misreads (condition.column? table))
      (fun statement =>
        composer.Takes (condition.column? table) condition statement.params)
      (composer.condition table condition) := by
  refine (composer.ends_comparison (condition.column? table) condition).map ?_
  intro comparison takes
  simpa using takes

theorem alternatives_intercalate {text : String}
    (present : alternatives text ≠ []) :
    alternatives ("|".intercalate (alternatives text)) = alternatives text := by
  have free : ∀ part ∈ alternatives text, '|' ∉ part.toList := by
    intro part member
    obtain ⟨piece, inPieces, rfl⟩ :=
      List.mem_map.mp (List.mem_filter.mp member).1
    rw [String.toList_ofList]
    exact Text.not_mem_of_mem_splitOn inPieces
  have pieces : Text.pieces '|' ("|".intercalate (alternatives text)) =
      alternatives text :=
    Text.pieces_intercalate present free
  rw [alternatives, pieces]
  exact List.filter_eq_self.mpr fun part member => (List.mem_filter.mp member).2

/-- A regular expression with the alternatives that it is composed of
as its operand. -/
def rejoined (composer : Composer) (condition : Condition) : Condition :=
  { condition with
    operand :=
      .string ("|".intercalate
        (alternatives (composer.formats.plainText condition.operand))) }

private theorem comparison_regexp {field text : String} {operand : Value}
    {upper : Option Value} {logic : Logic}
    (matched : composer.patternText .regexp operand = .ok text)
    (present : alternatives text ≠ []) :
    composer.comparison column ⟨field, .regexp, operand, upper, logic⟩ =
      .ok ((Statement.ofSql " REGEXP ").param
        (.text ("|".intercalate (alternatives text)))) := by
  refine Outcome.bind_eq_ok_iff.mpr ⟨text, matched, ?_⟩
  dsimp only
  rw [if_neg (mt List.isEmpty_iff.mp present)]
  rfl

theorem condition_rejoined (composer : Composer) (table : Option Table)
    (regexp : condition.operator = .regexp)
    (usable : ¬ condition.Unusable composer.formats) :
    composer.condition table (composer.rejoined condition) =
      composer.condition table condition := by
  obtain ⟨field, operator, operand, upper, logic⟩ := condition
  cases regexp
  obtain ⟨textual, several⟩ := not_or.mp usable
  have present : alternatives (composer.formats.plainText operand) ≠ [] := by
    simpa [alternatives] using several
  obtain ⟨_, matched, rfl⟩ :=
    (composer.ends_patternText .regexp operand).exists_ok textual
      (fun _ _ => id)
  have again := alternatives_intercalate present
  have presentAgain : alternatives
      ("|".intercalate (alternatives (composer.formats.plainText operand))) ≠
      [] := by rwa [again]
  unfold Composer.condition rejoined
  dsimp only
  rw [comparison_regexp matched present,
    comparison_regexp rfl presentAgain, again]

/-- A condition is refused for operands that its operator cannot use, or else
for an element of a list that does not read as a number; and it is composed in
every other case. -/
structure Accepts (composer : Composer) (table : Option Table)
    (condition : Condition) : Prop where
  unusable :
    (∃ detail,
        composer.condition table condition =
          .error (.unsupportedOperand detail)) ↔
      condition.Unusable composer.formats
  misread : ∀ name expected found,
    composer.condition table condition =
        .error (.invalidValue name expected found) →
      ∃ numbers, condition.Misreads (condition.column? table) numbers found ∧
        name = numbers.name ∧ expected = numbers.kind.name
  invalid : (∃ name expected found,
      composer.condition table condition =
        .error (.invalidValue name expected found)) ↔
    (∃ numbers element,
        condition.Misreads (condition.column? table) numbers element) ∧
      ¬ condition.Unusable composer.formats
  accepted : ¬ condition.Unusable composer.formats →
    (∀ numbers element,
      ¬ condition.Misreads (condition.column? table) numbers element) →
    ∃ statement, composer.condition table condition = .ok statement ∧
      composer.Takes (condition.column? table) condition statement.params ∧
      (condition.operator = .regexp →
        composer.condition table (composer.rejoined condition) = .ok statement)

private theorem not_unusable_of_misreads {numbers : Column} {element : String}
    (misreads : condition.Misreads column numbers element) (formats : Formats) :
    ¬ condition.Unusable formats := by
  obtain ⟨lists, _, _, text, given, piece, inPieces, shown, _⟩ := misreads
  obtain ⟨field, operator, operand, upper, logic⟩ := condition
  cases given
  have unusable :
      (Condition.mk field operator (.string text) upper logic).Unusable
          formats →
        ∀ piece ∈ Text.pieces ',' text, Text.isAllBlank piece = true := by
    simp only [List.mem_cons, List.not_mem_nil, or_false] at lists
    rcases lists with rfl | rfl
    all_goals simp [Condition.Unusable, Value.isIncomparable]
  intro because
  have blank := unusable because piece inPieces
  rw [shown] at blank
  cases blank

theorem accepts_condition (composer : Composer) (table : Option Table)
    (condition : Condition) : composer.Accepts table condition where
  unusable := (composer.ends_condition table condition).unusable_iff
    fun _ _ misreads => not_unusable_of_misreads misreads composer.formats
  invalid := (composer.ends_condition table condition).misread_iff
    fun _ _ misreads => not_unusable_of_misreads misreads composer.formats
  misread name expected found refused := by
    have ends := composer.ends_condition table condition
    rw [refused] at ends
    cases ends with
    | misread numbers _ because => exact ⟨numbers, because, rfl, rfl⟩
  accepted usable read := by
    obtain ⟨statement, composed, takes⟩ :=
      (composer.ends_condition table condition).exists_ok usable read
    refine ⟨statement, composed, takes, fun regexp => ?_⟩
    rw [condition_rejoined composer table regexp usable, composed]

end Composer

end RecordSql
