import Mathlib.Data.List.Basic
import RecordSql.Predicate
import RecordSql.Proofs.Statement.Composition

/-!
# Splitting of group maps

A group map is a text with tokens in it, each a name between two colons.
`Splits` says what it is to cut such a text from left to right, without a word
on how the cut is found.  Where no name has a colon of its own there is one
cut only, and writing the pieces between the colons comes to writing the
pieces of that cut.
-/

namespace RecordSql

/-- What a piece of a group map stands for in the text it is cut from. -/
def GroupMapPiece.source : GroupMapPiece → List Char
  | .text copied => copied.toList
  | .group name => ':' :: (name.toList ++ [':'])

namespace GroupMap

/-- One of the names stands between two colons, the first of them
at the position. -/
def TokenAt (names : List String) (text : List Char) (position : Nat) : Prop :=
  ∃ name ∈ names, ':' :: (name.toList ++ [':']) <+: text.drop position

variable {names : List String} {text before rest segment : List Char}
  {position : Nat}

theorem tokenAt_of_mem {name : String} (member : name ∈ names)
    (before after : List Char) :
    TokenAt names
      (before ++ ':' :: (name.toList ++ ':' :: after)) before.length := by
  refine ⟨name, member, after, ?_⟩
  rw [List.drop_left]
  simp

theorem tokenAt_append_iff :
    TokenAt names (before ++ rest) (before.length + position) ↔
      TokenAt names rest position := by
  simp only [TokenAt, List.drop_length_add_append]

theorem not_tokenAt_of_plain (plain : ':' ∉ text) :
    ¬ TokenAt names text position := by
  rintro ⟨name, _, found⟩
  exact plain (List.mem_of_mem_drop (found.subset List.mem_cons_self))

namespace TokenAt

theorem lt_length (token : TokenAt names text position) :
    position < text.length := by
  obtain ⟨name, _, found⟩ := token
  by_contra outside
  rw [List.drop_eq_nil_of_le (Nat.le_of_not_lt outside)] at found
  exact List.cons_ne_nil _ _ (List.prefix_nil.mp found)

theorem append (token : TokenAt names text position) (rest : List Char) :
    TokenAt names (text ++ rest) position := by
  have inside := token.lt_length
  obtain ⟨name, member, found⟩ := token
  refine ⟨name, member, ?_⟩
  rw [List.drop_append_of_le_length (Nat.le_of_lt inside)]
  exact found.trans (List.prefix_append _ _)

/-- No token begins where there is no colon. -/
theorem length_le (plain : ':' ∉ segment)
    (token : TokenAt names (segment ++ rest) position) :
    segment.length ≤ position := by
  by_contra short
  have inside : position < segment.length := Nat.lt_of_not_le short
  obtain ⟨name, _, found⟩ := token
  rw [List.drop_append_of_le_length (Nat.le_of_lt inside),
    ← List.getElem_cons_drop inside, List.cons_append, List.cons_prefix_cons]
    at found
  exact plain (found.1 ▸ List.getElem_mem inside)

end TokenAt

theorem eq_of_append_colon {left right leftRest rightRest : List Char}
    (leftPlain : ':' ∉ left) (rightPlain : ':' ∉ right)
    (same : left ++ ':' :: leftRest = right ++ ':' :: rightRest) :
    left = right ∧ leftRest = rightRest := by
  have run : ∀ {segment : List Char} (rest : List Char), ':' ∉ segment →
      (segment ++ ':' :: rest).takeWhile (· ≠ ':') = segment := by
    intro segment rest plain
    rw [List.takeWhile_append_of_pos, List.takeWhile_cons_of_neg (by simp),
      List.append_nil]
    intro character member
    simpa using ne_of_mem_of_not_mem member plain
  obtain rfl : left = right := by
    rw [← run leftRest leftPlain, same, run rightRest rightPlain]
  exact ⟨rfl, (List.cons.inj (List.append_cancel_left same)).2⟩

/-- No token of the whole text begins in the part before. -/
def Clear (names : List String) (before rest : List Char) : Prop :=
  ∀ position, TokenAt names (before ++ rest) position → before.length ≤ position

namespace Clear

theorem nil : Clear names [] rest :=
  fun position _ => Nat.zero_le position

theorem append_plain (clear : Clear names before (segment ++ rest))
    (plain : ':' ∉ segment) : Clear names (before ++ segment) rest := by
  intro position token
  rw [List.append_assoc] at token
  obtain ⟨further, rfl⟩ := Nat.exists_eq_add_of_le (clear position token)
  have enough := (tokenAt_append_iff.mp token).length_le plain
  rw [List.length_append]
  exact Nat.add_le_add_left enough before.length

theorem append_colon (clear : Clear names before (':' :: rest))
    (none : ¬ TokenAt names (':' :: rest) 0) :
    Clear names (before ++ [':']) rest := by
  intro position token
  rw [List.append_assoc, List.singleton_append] at token
  obtain ⟨further, rfl⟩ := Nat.exists_eq_add_of_le (clear position token)
  cases further with
  | zero => exact absurd (tokenAt_append_iff.mp token) none
  | succ further =>
      rw [List.length_append, List.length_singleton]
      exact Nat.add_le_add_left (Nat.succ_le_succ (Nat.zero_le further))
        before.length

theorem not_tokenAt (clear : Clear names before rest) (plain : ':' ∉ rest) :
    ¬ TokenAt names (before ++ rest) position := by
  intro token
  obtain ⟨further, rfl⟩ := Nat.exists_eq_add_of_le (clear position token)
  exact not_tokenAt_of_plain plain (tokenAt_append_iff.mp token)

end Clear

/-- A text cut from left to right: each token is the first in what is
left of the text. -/
inductive Splits (names : List String) :
    List Char → List GroupMapPiece → Prop where
  | last {text : List Char} :
      (∀ position, ¬ TokenAt names text position) →
      Splits names text [.text (String.ofList text)]
  | token {name : String} {before after : List Char}
      {pieces : List GroupMapPiece} :
      name ∈ names →
      Clear names before (':' :: (name.toList ++ ':' :: after)) →
      Splits names after pieces →
      Splits names (before ++ ':' :: (name.toList ++ ':' :: after))
        (.text (String.ofList before) :: .group name :: pieces)

namespace Splits

variable {pieces others : List GroupMapPiece}

theorem flatMap_source (splits : Splits names text pieces) :
    pieces.flatMap GroupMapPiece.source = text := by
  induction splits with
  | last nowhere => simp [GroupMapPiece.source]
  | token member first splits induction =>
      simp [GroupMapPiece.source, induction]

/-- No text that is copied has a token in it. -/
theorem not_tokenAt_of_text {copied : String}
    (splits : Splits names text pieces) (member : .text copied ∈ pieces) :
    ¬ TokenAt names copied.toList position := by
  induction splits with
  | last nowhere =>
      cases List.mem_singleton.mp member
      rw [String.toList_ofList]
      exact nowhere position
  | token named first splits induction =>
      rcases List.mem_cons.mp member with same | member
      · cases same
        rw [String.toList_ofList]
        intro token
        exact Nat.not_lt_of_le (first position (token.append _)) token.lt_length
      · rcases List.mem_cons.mp member with same | later
        · cases same
        · exact induction later

/-- Names without colons leave no choice of the token that is the first. -/
theorem unique (plain : ∀ name ∈ names, ':' ∉ name.toList)
    (splits : Splits names text pieces) (otherwise : Splits names text others) :
    pieces = others := by
  induction splits generalizing others with
  | last nowhere =>
      cases otherwise with
      | last _ => rfl
      | token member first splits =>
          exact absurd (tokenAt_of_mem member _ _) (nowhere _)
  | @token name before after pieces member first splits induction =>
      generalize same : before ++ ':' :: (name.toList ++ ':' :: after) = text
        at otherwise
      cases otherwise with
      | last nowhere =>
          subst same
          exact absurd (tokenAt_of_mem member _ _) (nowhere _)
      | @token other otherBefore otherAfter otherPieces otherMember otherFirst
          otherSplits =>
          have together : before.length = otherBefore.length :=
            Nat.le_antisymm (first _ (same ▸ tokenAt_of_mem otherMember _ _))
              (otherFirst _ (same ▸ tokenAt_of_mem member _ _))
          obtain ⟨rfl, sameRest⟩ := List.append_inj same together
          obtain ⟨sameName, rfl⟩ := eq_of_append_colon (plain name member)
            (plain other otherMember) (List.cons.inj sameRest).2
          rw [String.toList_inj.mp sameName, induction otherSplits]

end Splits

/-- The names that can stand in a token as what is between two
colons in a row. -/
def plainNames (declared : List String) : List String :=
  declared.filter fun name => !name.toList.contains ':'

theorem mem_plainNames_iff {declared : List String} {name : String} :
    name ∈ plainNames declared ↔ name ∈ declared ∧ ':' ∉ name.toList := by
  simp [plainNames]

/-- Writing the pieces after the text before is writing the pieces of a
cut of the whole. -/
def Cuts (names : List String) (before rest : List Char)
    (pieces : List GroupMapPiece) : Prop :=
  ∃ whole, Splits names (before ++ rest) whole ∧
    ∀ composed statement,
      Composer.fillPieces composed pieces
          (statement.sql (String.ofList before)) =
        Composer.fillPieces composed whole statement

namespace Cuts

variable {first name : String} {pieces : List GroupMapPiece}

private theorem last (clear : Clear names before first.toList)
    (plain : ':' ∉ first.toList) :
    Cuts names before first.toList [.text first] := by
  refine ⟨_, .last fun position => clear.not_tokenAt plain, ?_⟩
  intro composed statement
  simp [Composer.fillPieces, Statement.sql_sql]

private theorem copy
    (cuts : Cuts names (before ++ first.toList ++ [':']) rest pieces) :
    Cuts names before (first.toList ++ ':' :: rest)
      (.text first :: .text ":" :: pieces) := by
  obtain ⟨whole, splits, written⟩ := cuts
  refine ⟨whole, by simpa using splits, ?_⟩
  intro composed statement
  rw [← written composed statement]
  simp [Composer.fillPieces, Statement.sql_sql, String.append_assoc]

private theorem token (member : name ∈ names)
    (clear :
      Clear names (before ++ first.toList)
        (':' :: (name.toList ++ ':' :: rest)))
    (cuts : Cuts names [] rest pieces) :
    Cuts names before (first.toList ++ ':' :: (name.toList ++ ':' :: rest))
      (.text first :: .group name :: pieces) := by
  obtain ⟨whole, splits, written⟩ := cuts
  have cut := Splits.token member clear splits
  rw [List.append_assoc] at cut
  refine ⟨_, cut, ?_⟩
  intro composed statement
  simp [Composer.fillPieces, Statement.sql_sql, ← written]

end Cuts

/-- A token that begins at once ends with the first colon after it. -/
private theorem not_tokenAt_zero {declared : List String} {name : String}
    (undeclared : name ∉ declared) (plain : ':' ∉ name.toList) :
    ¬ TokenAt (plainNames declared)
      (':' :: (name.toList ++ ':' :: rest)) 0 := by
  rintro ⟨other, member, after, same⟩
  obtain ⟨otherDeclared, otherPlain⟩ := mem_plainNames_iff.mp member
  have sameRest : other.toList ++ ':' :: after =
      name.toList ++ ':' :: rest := by
    simpa using same
  have sameName := (eq_of_append_colon otherPlain plain sameRest).1
  exact undeclared (String.toList_inj.mp sameName ▸ otherDeclared)

/-- The text that has the segments between its colons. -/
def uncut (segments : List String) : List Char :=
  [':'].intercalate (segments.map String.toList)

private theorem uncut_singleton (last : String) :
    uncut [last] = last.toList := by
  simp [uncut]

private theorem uncut_cons_cons (first next : String) (rest : List String) :
    uncut (first :: next :: rest) =
      first.toList ++ ':' :: uncut (next :: rest) := by
  simp [uncut, List.intercalate_cons_cons]

/-- What is read and to be copied is kept in the text before, until a token
ends it. -/
theorem cuts_groupMapPieces {declared segments : List String}
    (present : segments ≠ [])
    (plain : ∀ segment ∈ segments, ':' ∉ segment.toList)
    (clear : Clear (plainNames declared) before (uncut segments)) :
    Cuts (plainNames declared) before (uncut segments)
      (groupMapPieces declared segments) := by
  fun_induction groupMapPieces declared segments generalizing before with
  | case1 => exact absurd rfl present
  | case2 last =>
      obtain ⟨lastPlain, -⟩ := List.forall_mem_cons.mp plain
      rw [uncut_singleton] at clear ⊢
      exact .last clear lastPlain
  | case3 first last =>
      obtain ⟨firstPlain, rest⟩ := List.forall_mem_cons.mp plain
      have lastPlain := rest last List.mem_cons_self
      rw [uncut_cons_cons, uncut_singleton] at clear ⊢
      have none : ¬ TokenAt (plainNames declared) (':' :: last.toList) 0 := by
        rintro ⟨name, _, found⟩
        exact lastPlain ((List.cons_prefix_cons.mp found).2.subset (by simp))
      exact .copy
        (.last ((clear.append_plain firstPlain).append_colon none) lastPlain)
  | case4 first name next rest isDeclared induction =>
      obtain ⟨firstPlain, others⟩ := List.forall_mem_cons.mp plain
      obtain ⟨namePlain, restPlain⟩ := List.forall_mem_cons.mp others
      rw [uncut_cons_cons, uncut_cons_cons] at clear ⊢
      have member : name ∈ plainNames declared :=
        mem_plainNames_iff.mpr ⟨List.contains_iff_mem.mp isDeclared, namePlain⟩
      exact .token member (clear.append_plain firstPlain)
        (induction (List.cons_ne_nil _ _) restPlain .nil)
  | case5 first name next rest undeclared induction =>
      obtain ⟨firstPlain, others⟩ := List.forall_mem_cons.mp plain
      have namePlain := others name List.mem_cons_self
      rw [uncut_cons_cons] at clear ⊢
      have none : ¬ TokenAt (plainNames declared)
          (':' :: uncut (name :: next :: rest)) 0 := by
        rw [uncut_cons_cons]
        exact not_tokenAt_zero (mt List.contains_iff_mem.mpr undeclared)
          namePlain
      exact .copy (induction (List.cons_ne_nil _ _) others
        ((clear.append_plain firstPlain).append_colon none))

/-- Every text is cut, and what it is cut into is what is written for it. -/
theorem exists_splits (declared : List String) (template : String) :
    ∃ pieces, Splits (plainNames declared) template.toList pieces ∧
      ∀ composed statement,
        Composer.fillPieces composed
            (groupMapPieces declared (Text.pieces ':' template)) statement =
          Composer.fillPieces composed pieces statement := by
  have segments : (Text.pieces ':' template).map String.toList =
      Text.splitOn (· == ':') template.toList := by
    simp [Text.pieces, Function.comp_def]
  have whole : uncut (Text.pieces ':' template) = template.toList := by
    rw [uncut, segments, Text.intercalate_splitOn]
  have plain : ∀ segment ∈ Text.pieces ':' template, ':' ∉ segment.toList := by
    intro segment member
    have cut : segment.toList ∈ Text.splitOn (· == ':') template.toList :=
      segments ▸ List.mem_map_of_mem member
    exact Text.not_mem_of_mem_splitOn cut
  have present : Text.pieces ':' template ≠ [] := by
    simpa [Text.pieces] using Text.splitOn_ne_nil (· == ':') template.toList
  have cuts : Cuts (plainNames declared) [] (uncut (Text.pieces ':' template))
      (groupMapPieces declared (Text.pieces ':' template)) :=
    cuts_groupMapPieces present plain .nil
  obtain ⟨pieces, splits, written⟩ := cuts
  refine ⟨pieces, by simpa [whole] using splits, ?_⟩
  intro composed statement
  simpa using written composed statement

end GroupMap

end RecordSql
