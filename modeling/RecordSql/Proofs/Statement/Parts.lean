import RecordSql.Proofs.Statement.Composition
import RecordSql.Text.Blank

/-!
# What statements are made of

A statement contains those that it is put together from.  It is visible if it is
never rendered as blanks only, however its parameters are written, and a visible
part makes the whole visible.
-/

namespace RecordSql

theorem Text.isAllBlank_append (first second : String) :
    isAllBlank (first ++ second) = (isAllBlank first && isAllBlank second) := by
  simp [isAllBlank]

namespace Statement

/-- A statement has another as a part. -/
def Contains (whole part : Statement) : Prop :=
  ∃ before after, whole = before ++ part ++ after

/-- More than blanks is written, wherever the statement stands. -/
def Visible (statement : Statement) : Prop :=
  ∀ placeholder before,
    Text.isAllBlank (statement.renderFrom placeholder before) = false

variable {statement whole part : Statement} {text separator : String}
  {items : List Statement}

theorem contains_append (before part : Statement) :
    (before ++ part).Contains part :=
  ⟨before, empty, (append_empty _).symm⟩

namespace Contains

theorem refl (statement : Statement) : statement.Contains statement :=
  ⟨empty, empty, by simp⟩

theorem prepend (statement : Statement) (contains : whole.Contains part) :
    (statement ++ whole).Contains part := by
  obtain ⟨before, after, rfl⟩ := contains
  exact ⟨statement ++ before, after, by simp only [append_assoc]⟩

theorem append (statement : Statement) (contains : whole.Contains part) :
    (whole ++ statement).Contains part := by
  obtain ⟨before, after, rfl⟩ := contains
  exact ⟨before, after ++ statement, by simp only [append_assoc]⟩

theorem sql (text : String) (contains : whole.Contains part) :
    (whole.sql text).Contains part := by
  rw [← append_ofSql]
  exact contains.append _

theorem trans {middle : Statement} (outer : whole.Contains middle)
    (inner : middle.Contains part) : whole.Contains part := by
  obtain ⟨before, after, rfl⟩ := outer
  exact (inner.prepend before).append after

end Contains

private theorem contains_eachAfter (member : statement ∈ items) :
    (eachAfter separator items).Contains statement := by
  induction items with
  | nil => cases member
  | cons first rest induction =>
      rcases List.mem_cons.mp member with rfl | inRest
      · exact (contains_append _ _).append _
      · exact (induction inRest).prepend _

theorem contains_join (member : statement ∈ items) :
    (join separator items).Contains statement := by
  cases items with
  | nil => cases member
  | cons first rest =>
      rw [join_cons]
      rcases List.mem_cons.mp member with rfl | inRest
      · exact (Contains.refl _).append _
      · exact (contains_eachAfter inRest).prepend _

theorem visible_sql (statement : Statement)
    (shown : Text.isAllBlank text = false) : (statement.sql text).Visible := by
  intro placeholder before
  simp [Text.isAllBlank_append, shown]

theorem visible_ofSql (shown : Text.isAllBlank text = false) :
    (ofSql text).Visible :=
  visible_sql empty shown

/-- A visible statement is not empty. -/
theorem Visible.isEmpty (visible : statement.Visible) :
    statement.isEmpty = false := by
  cases empty : statement.isEmpty with
  | false => rfl
  | true =>
      obtain rfl : statement = .empty :=
        Statement.ext (List.isEmpty_iff.mp empty)
      cases visible (fun _ _ => "") 0

theorem Visible.sql (visible : statement.Visible) (text : String) :
    (statement.sql text).Visible := by
  intro placeholder before
  simp [Text.isAllBlank_append, visible placeholder before]

theorem Visible.param (visible : statement.Visible) (value : Param) :
    (statement.param value).Visible := by
  intro placeholder before
  simp [Text.isAllBlank_append, visible placeholder before]

theorem Contains.visible (contains : whole.Contains part)
    (visible : part.Visible) : whole.Visible := by
  obtain ⟨outer, after, rfl⟩ := contains
  intro placeholder before
  simp [Text.isAllBlank_append, visible placeholder]

end Statement

end RecordSql
