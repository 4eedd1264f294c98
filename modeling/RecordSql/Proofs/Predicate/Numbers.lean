import RecordSql.Proofs.Binding
import RecordSql.Proofs.Predicate.Elements

/-!
# Whole numbers in predicates

The elements of a list and the keys that are compared with a column of whole
numbers are bound like the values that are stored in it.
-/

namespace RecordSql.Composer

/-- The elements of a list are bound as they would be stored, or one of
them is refused. -/
structure BindsWholeList (composer : Composer) (table : Option Table)
    (column : Column) (condition : Condition)
    (elements : List String) : Prop where
  bound : ∀ statement, composer.condition table condition = .ok statement →
    List.Forall₂ (fun element param =>
      BindsWhole column (.string element) (.ok param)) elements statement.params
  refused : ∀ fault, composer.condition table condition = .error fault →
    (elements = [] ∧
        fault =
          .unsupportedOperand
            (condition.operator.token ++ " with an empty list")) ∨
      ∃ element ∈ elements, BindsWhole column (.string element) (.error fault)

/-- The keys of a column are bound as they would be stored, if
they are not null. -/
structure BindsWholeKeys (composer : Composer) (table : Option Table)
    (column : Column) (keys : Keys) : Prop where
  bound : ∀ statement, composer.keys table keys = .ok statement →
    ∃ clauses, statement = .join " AND " clauses ∧
      List.Forall₂ (fun entry clause => columnOf? table entry.1 = some column →
          entry.2.isNull = false →
          ∃ param, clause.params = [param] ∧
            BindsWhole column entry.2 (.ok param)) keys.entries clauses
  refused : ∀ fault, composer.keys table keys = .error fault →
    fault = .emptyKeySet ∨ fault = .emptyKeyName ∨
      ∃ entry ∈ keys.entries, entry.2.isNull = false ∧
        (columnOf? table entry.1 = some column →
          BindsWhole column entry.2 (.error fault))

variable {composer : Composer} {table : Option Table} {column : Column}

section Lists

variable {condition : Condition} {text : String}
  (lists : condition.operator ∈ [.inList, .notInList])
  (given : condition.operand = .string text)

include lists given

private theorem bindsWholeList (integer : column.kind = .integer)
    (found : columnOf? table (lastSegment condition.field) = some column) :
    composer.BindsWholeList table column condition (listElements text) := by
  have binds : ∀ element outcome,
      composer.elementParam (some column) element = outcome →
        BindsWhole column (.string element) outcome := by
    rintro element _ rfl
    simp only [elementParam, integer, true_or, if_true]
    exact composer.formats.bindsWhole integer rfl
  constructor
  · intro statement composed
    have bound := params_of_elements lists given composed
    rw [found] at bound
    exact bound.imp fun element param => binds element (.ok param)
  · intro fault refused
    have refused := refused_of_elements lists given refused
    rw [found] at refused
    refine refused.imp_right ?_
    rintro ⟨element, member, isRefused⟩
    exact ⟨element, member, binds element (.error fault) isRefused⟩

end Lists

section Keys

variable {keys : Keys}

/-- Keys are refused if there are none, if one has no name, or for a
value of theirs. -/
theorem refused_of_keys {fault : Fault}
    (refused : composer.keys table keys = .error fault) :
    fault = .emptyKeySet ∨ fault = .emptyKeyName ∨
      ∃ entry ∈ keys.entries, entry.2 ≠ .null ∧
        composer.keyParam table entry.1 entry.2 = .error fault := by
  rcases keys_cases composer table keys with
    ⟨_, ended⟩ | ⟨_, _, ended⟩ | ⟨_, _, composed⟩
  · cases ended.symm.trans refused
    exact .inl rfl
  · cases ended.symm.trans refused
    exact .inr (.inl rfl)
  · rw [composed, Outcome.map_eq_error_iff] at refused
    obtain ⟨entry, member, clauseRefused⟩ :=
      Outcome.exists_of_mapM_eq_error refused
    exact .inr (.inr ⟨entry, member, keyClause_eq_error_iff.mp clauseRefused⟩)

theorem params_of_keyClause {name : String} {value : Value} {clause : Statement}
    (present : value.isNull = false)
    (composed : composer.keyClause table name value = .ok clause) :
    ∃ param, composer.keyParam table name value = .ok param ∧
      clause.params = [param] := by
  cases keyClause_eq_ok_iff.mp composed with
  | null => cases present
  | equal _ binds => exact ⟨_, keyParam_eq_ok_iff.mpr binds, by simp⟩

private theorem bindsWholeKeys (integer : column.kind = .integer) :
    composer.BindsWholeKeys table column keys := by
  have binds : ∀ name value outcome, columnOf? table name = some column →
      value.isNull = false →
      composer.keyParam table name value = outcome →
      BindsWhole column value outcome := by
    rintro name value _ found present rfl
    rw [keyParam, found]
    exact composer.formats.bindsWhole integer present
  constructor
  · intro statement composed
    obtain ⟨clauses, _, rfl, clausesOk⟩ := clauses_of_keys composed
    refine ⟨clauses, rfl,
      clausesOk.imp fun entry clause clauseOk found present => ?_⟩
    obtain ⟨param, bound, params⟩ := params_of_keyClause present clauseOk
    exact ⟨param, params, binds entry.1 entry.2 (.ok param) found present bound⟩
  · intro fault refused
    refine (refused_of_keys refused).imp_right fun others => others.imp_right ?_
    rintro ⟨entry, member, notNull, paramRefused⟩
    have present := Value.isNull_eq_false_iff.mpr notNull
    exact ⟨entry, member, present, fun found =>
      binds _ _ _ found present paramRefused⟩

end Keys

/-- In a column of whole numbers a value is bound to its whole part or refused,
unless that does not fit or rounding reaches the next number; and so are the
elements of lists and the keys that are compared with the column. -/
theorem bindsWhole_integers (composer : Composer) (table : Option Table)
    (integer : column.kind = .integer) : (∀ value, value.isNull = false →
      BindsWhole column value (composer.formats.bind value column)) ∧
    (∀ condition text,
      columnOf? table (lastSegment condition.field) = some column →
        condition.operator ∈ [.inList, .notInList] →
        condition.operand = .string text →
        composer.BindsWholeList table column condition (listElements text)) ∧
    ∀ keys, composer.BindsWholeKeys table column keys :=
  ⟨fun _ present => composer.formats.bindsWhole integer present,
    fun _ _ found lists given => bindsWholeList lists given integer found,
    fun _ => bindsWholeKeys integer⟩

/-- The greatest whole number of the range, in a list and as a key with a
fraction of zero, and a power of ten in a text. -/
theorem bindsWhole_integers_accounts :
    let composer : Composer := ⟨.sqlite, ⟨none, none⟩⟩
    let identifier : Column := .ofDeclared ⟨"id", "bigint", false, true, none⟩
    let table : Table := ⟨"accounts", [identifier]⟩
    let condition : Condition :=
      .of "id" .inList (.string "-7, 9223372036854775807")
    let keys : Keys := .ofList [("id", .double (.ofInt 12))]
    identifier.kind = .integer ∧
      (composer.formats.bind (.string " -1.5e3 ") identifier =
          .ok (.integer (-1500)) ∧
        BindsWhole identifier (.string " -1.5e3 ") (.ok (.integer (-1500)))) ∧
      (composer.condition (some table) condition =
          .ok (.ofPieces [.text "id IN (", .param (.integer (-7)), .text ", ",
            .param (.integer 9223372036854775807), .text ")"]) ∧
        composer.BindsWholeList
          (some table) identifier condition ["-7", "9223372036854775807"]) ∧
      (composer.keys (some table) keys =
          .ok (.ofPieces [.text "id = ", .param (.integer 12)]) ∧
        composer.BindsWholeKeys (some table) identifier keys) := by
  intro composer identifier table condition keys
  have integer : identifier.kind = .integer := by decide +kernel
  have bound : composer.formats.bind (.string " -1.5e3 ") identifier =
      .ok (.integer (-1500)) := by decide +kernel
  have elements : listElements "-7, 9223372036854775807" =
      ["-7", "9223372036854775807"] := by
    decide +kernel
  obtain ⟨values, lists, ofKeys⟩ :=
    bindsWhole_integers composer (some table) integer
  refine ⟨integer, ⟨bound, ?_⟩,
    ⟨by decide +kernel, ?_⟩, by decide +kernel, ofKeys keys⟩
  · rw [← bound]
    exact values _ rfl
  · rw [← elements]
    exact lists condition _ (by decide +kernel)
      (by simp [condition, Condition.of]) rfl

/-- A whole number beyond the range is bound to the last one in it, and so a key
addresses another row. -/
theorem bind_beyond_range :
    let composer : Composer := ⟨.sqlite, ⟨none, none⟩⟩
    let identifier : Column := .ofDeclared ⟨"id", "bigint", false, true, none⟩
    let table : Table := ⟨"accounts", [identifier]⟩
    let value : Value := .string "9223372036854775808"
    identifier.kind = .integer ∧ value.number? = some 9223372036854775808 ∧
      composer.formats.bind value identifier =
        .ok (.integer 9223372036854775807) ∧
      (9223372036854775807 : Int64).toInt ≠ wholePart 9223372036854775808 ∧
      composer.keys (some table) (.ofList [("id", value)]) =
        .ok
          (.ofPieces [.text "id = ",
            .param (.integer 9223372036854775807)]) := by
  intro composer identifier table value
  refine ⟨by decide +kernel, ?_, by decide +kernel, ?_, by decide +kernel⟩
  · have numeral :
        Number.signed? (Text.trimChars "9223372036854775808".toList) =
          some 9223372036854775808 := by decide +kernel
    exact_mod_cast Number.ofText?_of_signed? numeral
  · have whole : wholePart 9223372036854775808 = 9223372036854775808 := by
      exact_mod_cast wholePart_intCast 9223372036854775808
    rw [whole]
    decide

end RecordSql.Composer
