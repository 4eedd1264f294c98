import RecordSql.Record

/-!
# Records in order

A record is put together from its own fields.
-/

namespace RecordSql.Record

variable {name : String} {value : Value} {fields : List (String × Value)}

/-- A field that comes after all others is put at the end. -/
theorem insertField_of_last (last : ∀ field ∈ fields, field.1 < name) :
    insertField name value fields = fields ++ [(name, value)] := by
  induction fields with
  | nil => rfl
  | cons first fields induction =>
      rw [List.forall_mem_cons] at last
      have notBefore : ¬ name < first.1 := String.lt_asymm last.1
      have different : name ≠ first.1 := by
        rintro rfl
        exact String.lt_irrefl _ last.1
      rw [insertField, if_neg notBefore, if_neg different,
        induction last.2, List.cons_append]

theorem ofList_fields (record : Record) : ofList record.fields = record := by
  have added : ∀ (after : List (String × Value)) (before : Record),
      ((before.fields ++ after).Pairwise
        fun first second => first.1 < second.1) →
      (after.foldl (fun record field => record.set field.1 field.2)
        before).fields = before.fields ++ after := by
    intro after
    induction after with
    | nil => simp
    | cons field after induction =>
        intro before ordered
        have last : ∀ earlier ∈ before.fields, earlier.1 < field.1 :=
          fun earlier member => (List.pairwise_append.mp ordered).2.2
            earlier member field List.mem_cons_self
        have put : (before.set field.1 field.2).fields =
            before.fields ++ [field] := insertField_of_last last
        have moved : before.fields ++ field :: after =
            (before.set field.1 field.2).fields ++ after := by simp [put]
        rw [moved] at ordered ⊢
        exact induction _ ordered
  ext1
  exact added record.fields empty record.ordered

end RecordSql.Record
