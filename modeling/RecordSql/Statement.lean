import RecordSql.Value

/-!
# Statements

SQL text with bound parameters between its pieces.  The parts of a statement
are determined by the characters and parameters that it is made of.  How
placeholders and literals are written is the dialect's concern.
-/

namespace RecordSql

inductive Param where
  | null
  | integer (value : Int64)
  | double (value : Double)
  | boolean (value : Bool)
  | text (value : String)
  | bytes (value : List UInt8)
  deriving DecidableEq

/-- Equality of parameters, by number for doubles. -/
def Param.equals : Param → Param → Bool
  | .double left, .double right => left.equals right
  | left, right => left == right

/-- A piece of SQL text or a parameter. -/
inductive StatementPart where
  | text (sql : String)
  | param (value : Param)
  deriving DecidableEq

def StatementPart.isParam : StatementPart → Bool
  | .param _ => true
  | .text _ => false

def StatementPart.equals : StatementPart → StatementPart → Bool
  | .param left, .param right => left.equals right
  | left, right => left == right

namespace Statement

/-- No text is empty and no two texts stand side by side. -/
structure Normal (parts : List StatementPart) : Prop where
  present : .text "" ∉ parts
  apart : ∀ left right, ¬ [.text left, .text right] <:+: parts

theorem Normal.nil : Normal [] :=
  ⟨List.not_mem_nil, fun _ _ => by simp⟩

theorem normal_concat_iff {parts : List StatementPart}
    {last : StatementPart} :
    Normal (parts ++ [last]) ↔ Normal parts ∧ last ≠ .text "" ∧
      (last.isParam = true ∨
        ∀ left, parts.getLast? ≠ some (.text left)) := by
  constructor
  · intro normal
    refine ⟨⟨?_, ?_⟩, ?_, ?_⟩
    · exact fun member => normal.present (List.mem_append_left _ member)
    · intro left right within
      exact normal.apart left right
        (List.infix_concat_iff.mpr (.inr within))
    · rintro rfl
      exact normal.present (by simp)
    · cases last with
      | param value => exact .inl rfl
      | text right =>
          refine .inr fun left ends => normal.apart left right ?_
          have atEnd := List.singleton_suffix_iff_getLast?_eq_some.mpr ends
          exact List.infix_concat_iff.mpr
            (.inl
              (List.suffix_concat_iff.mpr (.inr ⟨[.text left], rfl, atEnd⟩)))
  · rintro ⟨normal, nonempty, meets⟩
    refine ⟨?_, ?_⟩
    · simpa using ⟨normal.present, Ne.symm nonempty⟩
    · intro left right within
      rcases List.infix_concat_iff.mp within with atEnd | before
      · rcases List.suffix_concat_iff.mp atEnd with
          nothing | ⟨front, same, ends⟩
        · cases nothing
        · have split : [.text left] ++ [.text right] = front ++ [last] := same
          obtain ⟨rfl, isLast⟩ := List.append_inj' split rfl
          obtain rfl := List.singleton_inj.mp isLast
          rcases meets with isParam | apart
          · cases isParam
          · exact apart left
              (List.singleton_suffix_iff_getLast?_eq_some.mp ends)
      · exact normal.apart left right before

/-- Adds text at the end, to a last piece of text if there is one. -/
def addText (sql : String) : List StatementPart → List StatementPart
  | [] => if sql = "" then [] else [.text sql]
  | [.text last] => [.text (last ++ sql)]
  | part :: parts => part :: addText sql parts

theorem addText_concat (sql : String) (parts : List StatementPart)
    (last : StatementPart) :
    addText sql (parts ++ [last]) = parts ++ addText sql [last] := by
  induction parts with
  | nil => rfl
  | cons first parts induction =>
      rw [List.cons_append, List.cons_append, ← induction]
      cases first with
      | param value => rfl
      | text text => cases parts with
        | nil => rfl
        | cons next parts => rfl

theorem addText_empty (parts : List StatementPart) :
    addText "" parts = parts := by
  rcases List.eq_nil_or_concat parts with rfl | ⟨before, last, rfl⟩
  · rfl
  · rw [List.concat_eq_append, addText_concat]
    cases last with
    | text last => simp [addText]
    | param value => rfl

/-- A text continues the last one, or stands after a parameter or at the
beginning. -/
theorem addText_cases {sql : String} (present : sql ≠ "")
    (parts : List StatementPart) :
    (∃ before last, parts = before ++ [.text last] ∧
        addText sql parts = before ++ [.text (last ++ sql)]) ∨
      (∀ left, parts.getLast? ≠ some (.text left)) ∧
        addText sql parts = parts ++ [.text sql] := by
  rcases List.eq_nil_or_concat parts with rfl | ⟨before, last, rfl⟩
  · exact .inr ⟨fun _ => by simp, by simp [addText, present]⟩
  · rw [List.concat_eq_append, addText_concat]
    cases last with
    | text last => exact .inl ⟨before, last, rfl, rfl⟩
    | param value => exact .inr ⟨fun _ => by simp, by simp [addText, present]⟩

theorem Normal.addText {parts : List StatementPart} (normal : Normal parts)
    (sql : String) : Normal (addText sql parts) := by
  by_cases present : sql = ""
  · rwa [present, addText_empty]
  rcases addText_cases present parts with
    ⟨before, last, rfl, added⟩ | ⟨apart, added⟩
  · obtain ⟨beforeNormal, nonempty, meets⟩ := normal_concat_iff.mp normal
    rw [added]
    refine normal_concat_iff.mpr ⟨beforeNormal, ?_, meets⟩
    simp [present]
  · rw [added]
    exact normal_concat_iff.mpr ⟨normal, by simp [present], .inr apart⟩

theorem Normal.addParam {parts : List StatementPart} (normal : Normal parts)
    (value : Param) : Normal (parts ++ [.param value]) :=
  normal_concat_iff.mpr ⟨normal, nofun, .inl rfl⟩

end Statement

@[ext] structure Statement where
  parts : List StatementPart
  normal : Statement.Normal parts
  deriving DecidableEq

namespace Statement

def empty : Statement := ⟨[], .nil⟩

def sql (statement : Statement) (text : String) : Statement :=
  ⟨addText text statement.parts, statement.normal.addText text⟩

def ofSql (text : String) : Statement :=
  empty.sql text

def param (statement : Statement) (value : Param) : Statement :=
  ⟨statement.parts ++ [.param value], statement.normal.addParam value⟩

def part (statement : Statement) : StatementPart → Statement
  | .text text => statement.sql text
  | .param value => statement.param value

def append (statement other : Statement) : Statement :=
  other.parts.foldl part statement

instance : Append Statement := ⟨append⟩

/-- Statements one after another with a separator between them. -/
def join (separator : String) : List Statement → Statement
  | [] => empty
  | first :: rest => rest.foldl
      (fun joined item => joined.sql separator ++ item) (empty ++ first)

def isEmpty (statement : Statement) : Bool := statement.parts.isEmpty

/-- The parameters among parts. -/
def paramsOf (parts : List StatementPart) : List Param :=
  parts.filterMap fun
    | .param value => some value
    | .text _ => none

def params (statement : Statement) : List Param :=
  paramsOf statement.parts

def paramCount (statement : Statement) : Nat :=
  statement.parts.countP StatementPart.isParam

/-- The parts rendered one after another; the number counts the
parameters before. -/
def renderParts (placeholder : Nat → Param → String) :
    Nat → List StatementPart → String
  | _, [] => ""
  | index, .text sql :: parts => sql ++ renderParts placeholder index parts
  | index, .param value :: parts =>
    placeholder (index + 1) value ++ renderParts placeholder (index + 1) parts

/-- The text with each parameter written from its position, from
one, and its value. -/
def render (statement : Statement)
    (placeholder : Nat → Param → String) : String :=
  renderParts placeholder 0 statement.parts

/-- Equality of statements, by number for doubles. -/
def equals (left right : Statement) : Bool :=
  left.parts.length == right.parts.length &&
    (left.parts.zip right.parts).all fun (leftPart, rightPart) =>
      leftPart.equals rightPart

/-- The predicate after the keyword WHERE; nothing for no predicate. -/
def whereClause (predicate : Statement) : Statement :=
  if predicate.isEmpty then predicate else ofSql " WHERE " ++ predicate

end Statement

end RecordSql
