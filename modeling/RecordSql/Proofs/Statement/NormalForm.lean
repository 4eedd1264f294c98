import Mathlib.Data.List.Forall2
import RecordSql.Proofs.Statement.Construction

/-!
# The normal form of statements

The constructed statements are those in normal form, with no empty text and
no two texts side by side.  So statements are told apart by their characters
and parameters alone, wherever the texts were cut when they were added.
-/

namespace RecordSql

/-- A character of a statement's text, or a parameter. -/
inductive StatementSymbol where
  | character (value : Char)
  | param (value : Param)

/-- Equal characters, or parameters that are the same in some sense. -/
inductive StatementSymbol.Corresponds (same : Param → Param → Prop) :
    StatementSymbol → StatementSymbol → Prop where
  | character (value : Char) :
      Corresponds same (.character value) (.character value)
  | param {left right : Param} (related : same left right) :
      Corresponds same (.param left) (.param right)

def StatementPart.symbols : StatementPart → List StatementSymbol
  | .text sql => sql.toList.map .character
  | .param value => [.param value]

/-- The same parameter. The zeros of both signs are one number. -/
inductive Param.Same : Param → Param → Prop where
  | refl (value : Param) : Same value value
  | zeros {left right : Double} (leftZero : left.isZero = true)
      (rightZero : right.isZero = true) :
      Same (.double left) (.double right)

namespace Statement

/-- The characters and parameters in their order. -/
def symbols (statement : Statement) : List StatementSymbol :=
  statement.parts.flatMap StatementPart.symbols

variable {statement left right : Statement}

theorem exists_construction (statement : Statement) :
    ∃ construction : Construction, construction.statement = statement := by
  induction statement using induction_part with
  | empty => exact ⟨.nothing, rfl⟩
  | part before last induction =>
      obtain ⟨construction, rfl⟩ := induction
      cases last with
      | text text => exact ⟨construction.sql text, rfl⟩
      | param value => exact ⟨construction.param value, rfl⟩

/-- Constructions end in normal form, and in all parts of this form. -/
theorem exists_construction_iff {parts : List StatementPart} :
    (∃ construction : Construction, construction.statement.parts = parts) ↔
      Normal parts := by
  constructor
  · rintro ⟨construction, rfl⟩
    exact construction.statement.normal
  · intro normal
    obtain ⟨construction, same⟩ := exists_construction ⟨parts, normal⟩
    exact ⟨construction, congrArg Statement.parts same⟩

theorem symbols_part (statement : Statement) (piece : StatementPart) :
    (statement.part piece).symbols = statement.symbols ++ piece.symbols := by
  cases piece with
  | param value => simp [part, symbols]
  | text text =>
      by_cases nothing : text = ""
      · simp [part, nothing, StatementPart.symbols]
      rw [symbols, symbols, part, parts_sql]
      rcases addText_cases nothing statement.parts with
        ⟨before, last, own, added⟩ | ⟨_, added⟩
      · rw [added, own]
        simp [StatementPart.symbols]
      · simp [added]

theorem symbols_ofPieces (pieces : List StatementPart) :
    (ofPieces pieces).symbols = pieces.flatMap StatementPart.symbols := by
  induction pieces using List.reverseRecOn with
  | nil => rfl
  | append_singleton pieces last induction =>
      rw [ofPieces_concat, symbols_part, induction, List.flatMap_append,
        List.flatMap_singleton]

private theorem symbols_ne_nil {piece : StatementPart}
    (present : piece ≠ .text "") : piece.symbols ≠ [] := by
  cases piece with
  | text text => simpa [StatementPart.symbols] using present
  | param value => simp [StatementPart.symbols]

private theorem normal_cons {first : StatementPart}
    {rest : List StatementPart} (normal : Normal (first :: rest)) :
    first ≠ .text "" ∧
      (∀ next ∈ rest.head?, first.isParam ∨ next.isParam) ∧
      Normal rest := by
  refine ⟨fun nothing => normal.present (by simp [nothing]), ?_, ?_, ?_⟩
  · intro next isNext
    obtain ⟨after, rfl⟩ := List.head?_eq_some_iff.mp isNext
    cases first with
    | param value => exact .inl rfl
    | text left => cases next with
      | param value => exact .inr rfl
      | text right => exact absurd ⟨[], after, rfl⟩ (normal.apart left right)
  · exact fun member => normal.present (List.mem_cons_of_mem _ member)
  · intro left right within
    exact normal.apart left right (List.infix_cons_iff.mpr (.inr within))

theorem symbols_eq_nil_iff :
    statement.symbols = [] ↔ statement = empty := by
  obtain ⟨parts, normal⟩ := statement
  cases parts with
  | nil => exact iff_of_true rfl rfl
  | cons first rest =>
      have present := symbols_ne_nil (normal_cons normal).1
      simp [symbols, empty, present]

/-- Symbols that begin with no character: nothing, or a parameter first. -/
private def BeginsWithNoCharacter (symbols : List StatementSymbol) : Prop :=
  ∀ value, symbols.head? ≠ some (.character value)

private theorem beginsWithNoCharacter (parts : List StatementPart)
    (begins : ∀ first ∈ parts.head?, first.isParam) :
    BeginsWithNoCharacter (parts.flatMap StatementPart.symbols) := by
  cases parts with
  | nil => exact nofun
  | cons first rest =>
      cases first with
      | text text => simp [StatementPart.isParam] at begins
      | param value => exact nofun

/-- A text ends where the first symbol that is no character stands. -/
private theorem corresponds_append {same : Param → Param → Prop}
    {first second : List Char} {rest others : List StatementSymbol}
    (restBegins : BeginsWithNoCharacter rest)
    (othersBegin : BeginsWithNoCharacter others)
    (related : List.Forall₂ (StatementSymbol.Corresponds same)
      (first.map .character ++ rest) (second.map .character ++ others)) :
    first = second ∧
      List.Forall₂ (StatementSymbol.Corresponds same) rest others := by
  induction first generalizing second with
  | nil =>
      cases second with
      | nil => exact ⟨rfl, related⟩
      | cons character second =>
          obtain ⟨_, _, ⟨⟩, _, rfl⟩ := List.forall₂_cons_right_iff.mp related
          exact absurd rfl (restBegins character)
  | cons character first induction =>
      cases second with
      | nil =>
          obtain ⟨_, _, ⟨⟩, _, rfl⟩ := List.forall₂_cons_left_iff.mp related
          exact absurd rfl (othersBegin character)
      | cons other second =>
          obtain ⟨⟨⟩, following⟩ := List.forall₂_cons.mp related
          obtain ⟨rfl, after⟩ := induction following
          exact ⟨rfl, after⟩

private theorem exists_character {text : String}
    (present : StatementPart.text text ≠ .text "") :
    ∃ first rest,
      (StatementPart.text text).symbols = .character first :: rest := by
  cases characters : text.toList with
  | nil => exact absurd (by simpa using characters) present
  | cons first rest =>
      exact ⟨first,
        rest.map .character, by simp [StatementPart.symbols, characters]⟩

/-- Equality of parameters, symbol by symbol. -/
private abbrev EqualSymbols :
    List StatementSymbol → List StatementSymbol → Prop :=
  List.Forall₂
    (StatementSymbol.Corresponds fun left right => left.equals right = true)

private theorem equalSymbols_of_equals {left right : StatementPart}
    (equal : left.equals right = true) :
    EqualSymbols left.symbols right.symbols := by
  cases left with
  | text text =>
      obtain rfl : StatementPart.text text = right := by
        simpa [StatementPart.equals] using equal
      refine List.forall₂_same.mpr fun symbol member => ?_
      obtain ⟨character, _, rfl⟩ := List.mem_map.mp member
      exact .character character
  | param value =>
      cases right with
      | text text => cases equal
      | param other => exact .cons (.param equal) .nil

private theorem symbols_flatMap_ne_nil {first : StatementPart}
    {rest : List StatementPart} (present : first ≠ .text "") :
    (first :: rest).flatMap StatementPart.symbols ≠ [] := by
  simp [symbols_ne_nil present]

private theorem equalParts_of_equalSymbols {lefts rights : List StatementPart}
    (leftNormal : Normal lefts) (rightNormal : Normal rights)
    (equal : EqualSymbols (lefts.flatMap StatementPart.symbols)
      (rights.flatMap StatementPart.symbols)) :
    List.Forall₂ (fun left right : StatementPart => left.equals right = true)
      lefts rights := by
  induction lefts generalizing rights with
  | nil =>
      cases rights with
      | nil => exact .nil
      | cons right rights =>
          exact absurd (List.forall₂_nil_left_iff.mp equal)
            (symbols_flatMap_ne_nil (normal_cons rightNormal).1)
  | cons left lefts induction =>
      obtain ⟨leftPresent, leftMeets, leftRest⟩ := normal_cons leftNormal
      cases rights with
      | nil =>
          exact absurd (List.forall₂_nil_right_iff.mp equal)
            (symbols_flatMap_ne_nil leftPresent)
      | cons right rights =>
          obtain ⟨rightPresent, rightMeets, rightRest⟩ :=
            normal_cons rightNormal
          rw [List.flatMap_cons, List.flatMap_cons] at equal
          cases left with
          | param value => cases right with
            | param other =>
                obtain ⟨corresponding, following⟩ := List.forall₂_cons.mp equal
                cases corresponding with
                | param related =>
                    exact .cons related (induction leftRest rightRest following)
            | text other =>
                obtain ⟨first, rest, begins⟩ := exists_character rightPresent
                rw [begins] at equal
                obtain ⟨⟨⟩, _⟩ := List.forall₂_cons.mp equal
          | text text => cases right with
            | param value =>
                obtain ⟨first, rest, begins⟩ := exists_character leftPresent
                rw [begins] at equal
                obtain ⟨⟨⟩, _⟩ := List.forall₂_cons.mp equal
            | text other =>
                have leftBegins := beginsWithNoCharacter lefts
                  (by simpa [StatementPart.isParam] using leftMeets)
                have rightBegins := beginsWithNoCharacter rights
                  (by simpa [StatementPart.isParam] using rightMeets)
                obtain ⟨sameText, following⟩ :=
                  corresponds_append leftBegins rightBegins equal
                rw [String.ext_iff.mpr sameText]
                exact .cons (by simp [StatementPart.equals])
                  (induction leftRest rightRest following)

/-- Statements are equal if and only if their characters and parameters are,
one by one. -/
theorem equals_iff_symbols :
    left.equals right = true ↔
      List.Forall₂ (StatementSymbol.Corresponds
          fun left right => left.equals right = true)
        left.symbols right.symbols := by
  have parts : left.equals right = true ↔
      List.Forall₂ (fun left right : StatementPart => left.equals right = true)
        left.parts right.parts := by
    simp [equals, List.forall₂_iff_zip]
  rw [parts]
  exact ⟨fun equal => List.rel_flatMap equal fun _ _ => equalSymbols_of_equals,
    equalParts_of_equalSymbols left.normal right.normal⟩

end Statement

theorem Magnitude.eq_zero_of_significand {magnitude : Magnitude}
    (nothing : magnitude.significand = 0) : magnitude = zero := by
  obtain ⟨significand, exponent, canonical⟩ := magnitude
  obtain rfl : significand = 0 := nothing
  obtain ⟨_, _, _, least | full⟩ := canonical
  · simp [zero, least]
  · exact absurd full (by decide)

theorem Double.equals_iff {left right : Double} (number : left ≠ .nan) :
    left.equals right = true ↔
      left = right ∨ left.isZero = true ∧ right.isZero = true := by
  cases left with
  | nan => exact absurd rfl number
  | infinite negative => cases right <;> simp [equals, isZero]
  | finite negative magnitude =>
      cases right with
      | nan => simp [equals, isZero]
      | infinite other => simp [equals, isZero]
      | finite other right =>
          have zeros : magnitude.significand = 0 → right.significand = 0 →
              magnitude = right :=
            fun first second => (Magnitude.eq_zero_of_significand first).trans
              (Magnitude.eq_zero_of_significand second).symm
          simp only [equals, isZero, Bool.and_eq_true, Bool.or_eq_true,
            beq_iff_eq, finite.injEq]
          constructor
          · rintro ⟨rfl, nothing | sign⟩
            · exact .inr ⟨nothing, nothing⟩
            · exact .inl ⟨sign, rfl⟩
          · rintro (⟨rfl, rfl⟩ | ⟨first, second⟩)
            · exact ⟨rfl, .inr rfl⟩
            · exact ⟨zeros first second, .inl first⟩

namespace Param

theorem same_double_iff {left right : Double} :
    (double left).Same (double right) ↔
      left = right ∨ left.isZero = true ∧ right.isZero = true := by
  constructor
  · rintro (_ | ⟨leftZero, rightZero⟩)
    · exact .inl rfl
    · exact .inr ⟨leftZero, rightZero⟩
  · rintro (rfl | ⟨leftZero, rightZero⟩)
    · exact .refl _
    · exact .zeros leftZero rightZero

theorem same_iff_eq {left right : Param}
    (other : ∀ value, left ≠ double value) :
    left.Same right ↔ left = right := by
  constructor
  · rintro (_ | _)
    · rfl
    · exact absurd rfl (other _)
  · rintro rfl
    exact .refl left

theorem equals_iff_same {left right : Param} (number : left ≠ double .nan) :
    left.equals right = true ↔ left.Same right := by
  cases left with
  | double value =>
      cases right with
      | double other =>
          rw [same_double_iff,
            ← Double.equals_iff (fun nan => number (congrArg double nan))]
          rfl
      | _ => exact iff_of_false (by simp [equals]) nofun
  | _ =>
      rw [same_iff_eq (by simp)]
      simp [equals]

end Param

namespace Statement

/-- No parameter is the double that is no number. -/
def IsNumeric (statement : Statement) : Prop :=
  .double .nan ∉ statement.params

theorem mem_params_of_mem_symbols {statement : Statement} {value : Param}
    (member : .param value ∈ statement.symbols) : value ∈ statement.params := by
  obtain ⟨part, inParts, inPart⟩ := List.mem_flatMap.mp member
  refine List.mem_filterMap.mpr ⟨part, inParts, ?_⟩
  cases part with
  | text text => simp [StatementPart.symbols] at inPart
  | param other =>
      obtain ⟨⟩ := List.mem_singleton.mp inPart
      rfl

private theorem corresponds_iff {left right : StatementSymbol}
    (number : left ≠ .param (.double .nan)) :
    left.Corresponds (fun left right => left.equals right = true) right ↔
      left.Corresponds Param.Same right := by
  constructor
  · rintro (_ | related)
    · exact .character _
    · exact .param
        ((Param.equals_iff_same fun nan => number (congrArg _ nan)).mp related)
  · rintro (_ | related)
    · exact .character _
    · exact .param
        ((Param.equals_iff_same fun nan => number (congrArg _ nan)).mpr related)

private theorem forall₂_corresponds_iff {lefts rights : List StatementSymbol}
    (numeric : ∀ left ∈ lefts, left ≠ .param (.double .nan)) :
    List.Forall₂ (StatementSymbol.Corresponds fun left right =>
        left.equals right = true) lefts rights ↔
      List.Forall₂ (StatementSymbol.Corresponds Param.Same) lefts rights := by
  constructor
  · intro related
    refine ((List.forall₂_and_left _ _).mpr ⟨numeric, related⟩).imp ?_
    exact fun _ _ ⟨number, related⟩ => (corresponds_iff number).mp related
  · intro related
    refine ((List.forall₂_and_left _ _).mpr ⟨numeric, related⟩).imp ?_
    exact fun _ _ ⟨number, related⟩ => (corresponds_iff number).mpr related

theorem IsNumeric.symbol {statement : Statement}
    (numeric : statement.IsNumeric) :
    ∀ symbol ∈ statement.symbols, symbol ≠ .param (.double .nan) := by
  rintro symbol member rfl
  exact numeric (mem_params_of_mem_symbols member)

theorem whereClause_ofPieces_eq_empty_iff {pieces : List StatementPart} :
    (ofPieces pieces).whereClause = empty ↔ ofPieces pieces = empty := by
  rw [whereClause_ofPieces, ofPieces_eq_empty_iff, ofPieces_eq_empty_iff]
  split
  · next blank => exact iff_of_true (by simp) blank
  · next content => simp [content]

/-- Constructions end in all parts in normal form and in no others.  They keep
all characters and parameters in their order, and these alone decide whether two
of them are equal and whether one is empty. The append is associative, the empty
statement does nothing to it, and the clause of a restriction is empty if and
only if the restriction is. -/
theorem normalForm (first second third : Construction) :
    (∀ parts : List StatementPart,
        (∃ construction : Construction,
          construction.statement.parts = parts) ↔ Normal parts) ∧
      first.statement.symbols = first.pieces.flatMap StatementPart.symbols ∧
      (first.statement.IsNumeric → second.statement.IsNumeric →
        (first.statement.equals second.statement = true ↔
          List.Forall₂ (StatementSymbol.Corresponds Param.Same)
            first.statement.symbols second.statement.symbols)) ∧
      (first.statement.isEmpty = true ↔ first.statement.symbols = []) ∧
      first.statement ++ second.statement ++ third.statement =
        first.statement ++ (second.statement ++ third.statement) ∧
      empty ++ first.statement = first.statement ∧
      first.statement ++ empty = first.statement ∧
      (first.statement.whereClause.isEmpty = true ↔
        first.statement.isEmpty = true) := by
  have made := first.statement_eq_ofPieces
  refine ⟨fun _ => exists_construction_iff, ?_, ?_, ?_,
    append_assoc _ _ _, empty_append _, append_empty _, ?_⟩
  · rw [made, symbols_ofPieces]
  · intro numeric _
    rw [equals_iff_symbols, forall₂_corresponds_iff numeric.symbol]
  · rw [isEmpty_iff, symbols_eq_nil_iff]
  · rw [isEmpty_iff, isEmpty_iff, made, whereClause_ofPieces_eq_empty_iff]

/-- One text cut in different places, and the zeros of both signs. -/
theorem normalForm_zeros :
    let appended : Construction :=
      .append (.ofSql "x") (.param (.ofSql " = ") (.double .zero))
    let joined : Construction :=
      .join " = " [.sql .nothing "x",
        .param (.ofSql "") (.double (.finite true .zero))]
    appended.statement.IsNumeric ∧ joined.statement.IsNumeric ∧
      appended.statement.equals joined.statement = true ∧
      List.Forall₂ (StatementSymbol.Corresponds Param.Same)
        appended.statement.symbols joined.statement.symbols := by
  intro appended joined
  have numeric : appended.statement.IsNumeric := by
    unfold IsNumeric; decide +kernel
  have joinedNumeric : joined.statement.IsNumeric := by
    unfold IsNumeric; decide +kernel
  have equal : appended.statement.equals joined.statement = true := by
    decide +kernel
  have decided :=
    (normalForm appended joined .nothing).2.2.1 numeric joinedNumeric
  exact ⟨numeric, joinedNumeric, equal, decided.mp equal⟩

end Statement

end RecordSql
