import RecordSql.Predicate.Lexeme
import RecordSql.Proofs.Dialect.Reading
import RecordSql.Proofs.Statement.Composition

/-!
# Lexemes of composed text

Each word and sign that predicates are composed of is read as itself, whatever
text comes after it, as long as the two cannot be taken for one.
-/

namespace RecordSql

theorem Lexeme.ofWord_of_isBareWord {text : List Char}
    (bare : Dialect.isBareWord text = true) : ofWord text = word text := by
  have unreserved : Text.lowerAscii (String.ofList text) ∉
      Dialect.reservedWords := by
    simp only [Dialect.isBareWord, Bool.and_eq_true, Bool.not_eq_true',
      List.contains_eq_mem, decide_eq_false_iff_not] at bare
    exact bare.2
  unfold ofWord
  split
  all_goals first
    | rfl
    | next keyword => exact absurd (by rw [keyword]; decide) unreserved

namespace Dialect

variable {dialect : Dialect} {rest : List Char} {more : List Lexeme}

/-- A text consists of some lexemes. -/
def Lexes (dialect : Dialect) (text : List Char)
    (lexemes : List Lexeme) : Prop :=
  ∀ count, text.length ≤ count → dialect.lexemesWithin count text = some lexemes

theorem lexemes?_eq_some {text : List Char} {lexemes : List Lexeme}
    (lexed : dialect.Lexes text lexemes) :
    dialect.lexemes? text = some lexemes :=
  lexed text.length (Nat.le_refl _)

private theorem isBlank_of_startsWord {first : Char}
    (starts : Text.startsWord first = true) : Text.isBlank first = false := by
  have spelled : (decide (first.val ≥ 65 ∧ first.val ≤ 90) ||
      decide (first.val ≥ 97) && decide (first.val ≤ 122) || first == '_') =
    true := starts
  simp only [Bool.or_eq_true, Bool.and_eq_true, decide_eq_true_eq, beq_iff_eq]
    at spelled
  rcases spelled with (letter | letter) | rfl
  case inr => rfl
  all_goals
    have least : 65 ≤ first.toNat := by
      have bound := UInt32.le_iff_toNat_le.mp letter.1
      exact Nat.le_trans (by decide) bound
    have greatest : first.toNat ≤ 122 :=
      Nat.le_trans (UInt32.le_iff_toNat_le.mp letter.2) (by decide)
    simp only [Text.isBlank, Bool.or_eq_false_iff, Bool.and_eq_false_iff,
      decide_eq_false_iff_not]
    omega

namespace Lexes

theorem nil : dialect.Lexes [] [] := by
  intro count _
  cases count <;> rfl

theorem blank (lexed : dialect.Lexes rest more) :
    dialect.Lexes (' ' :: rest) more := by
  intro count enough
  cases count with
  | zero => simp at enough
  | succ count =>
      have within := lexed (count + 1) (Nat.le_of_succ_le enough)
      exact within

theorem cons {first : Char} {text : List Char} {lexeme : Lexeme}
    (visible : Text.isBlank first = false)
    (read : dialect.readLexeme (first :: text) = some (lexeme, rest))
    (shorter : rest.length ≤ text.length) (lexed : dialect.Lexes rest more) :
    dialect.Lexes (first :: text) (lexeme :: more) := by
  intro count enough
  cases count with
  | zero => simp at enough
  | succ count =>
      have within :=
        lexed count (Nat.le_trans shorter (Nat.le_of_succ_le_succ enough))
      have kept : Text.dropBlanks (first :: text) = first :: text := by
        simp [Text.dropBlanks, visible]
      rw [lexemesWithin, kept]
      simp [read, within]

/-- The first characters of signs. -/
def signs : List Char := ['(', ')', ',', '=', '<', '>', '?', '@']

private theorem isBlank_of_mem_signs {first : Char} (sign : first ∈ signs) :
    Text.isBlank first = false := by
  simp only [signs, List.mem_cons, List.not_mem_nil, or_false] at sign
  rcases sign with rfl | rfl | rfl | rfl | rfl | rfl | rfl | rfl <;> rfl

private theorem readLexeme_sign {first : Char} {text : List Char}
    (sign : first ∈ signs) :
    dialect.readLexeme (first :: text) = dialect.readSign (first :: text) := by
  simp only [signs, List.mem_cons, List.not_mem_nil, or_false] at sign
  rcases sign with rfl | rfl | rfl | rfl | rfl | rfl | rfl | rfl <;>
    cases dialect <;> rfl

/-- What starts with the first character of a sign is read as that sign. -/
theorem sign {first : Char} {text : List Char} {lexeme : Lexeme}
    (sign : first ∈ signs)
    (read : dialect.readSign (first :: text) = some (lexeme, rest))
    (shorter : rest.length ≤ text.length) (lexed : dialect.Lexes rest more) :
    dialect.Lexes (first :: text) (lexeme :: more) :=
  cons (isBlank_of_mem_signs sign)
    ((readLexeme_sign sign).trans read) shorter lexed

theorem comparison {operator : Operator}
    (compares : operator.isComparison = true)
    (lexed : dialect.Lexes rest more) :
    dialect.Lexes (operator.token.toList ++ ' ' :: rest)
      (.comparison operator :: more) := by
  have lexedBlank := lexed.blank
  cases operator
  case equal | greater | less =>
    exact sign (by decide) rfl (Nat.le_refl _) lexedBlank
  case notEqual | greaterOrEqual | lessOrEqual =>
    exact sign (by decide) rfl (Nat.le_succ _) lexedBlank
  all_goals cases compares

theorem placeholder (position : Nat) (ends : dialect.EndsName rest)
    (lexed : dialect.Lexes rest more) :
    dialect.Lexes ((dialect.placeholder position).toList ++ rest)
      (.placeholder :: more) := by
  have read := readPlaceholder?_placeholder position ends.1
  obtain ⟨first, tail, written, signs, fallsThrough⟩ : ∃ first tail,
      (dialect.placeholder position).toList = first :: tail ∧ first ∈ signs ∧
        ∀ text, dialect.readSign (first :: text) =
          (dialect.readPlaceholder? (first :: text)).map fun rest =>
            (.placeholder, rest) := by
    cases dialect with
    | mysql _ | sqlite =>
        exact ⟨'?', [], by simp [Dialect.placeholder], by decide, fun _ => rfl⟩
    | sqlserver =>
        exact ⟨'@', 'P' :: Number.digitChars position, by
          simp [Dialect.placeholder, Number.natText], by decide, fun _ => rfl⟩
  rw [written, List.cons_append] at read ⊢
  refine sign signs ?_ ?_ lexed
  · rw [fallsThrough, read]
    rfl
  · rw [List.length_append]
    exact Nat.le_add_left _ _

theorem word {first : Char} {text : List Char}
    (starts : Text.startsWord first = true)
    (continues : ∀ character ∈ text, Text.continuesWord character = true)
    (ends : dialect.EndsName rest) (lexed : dialect.Lexes rest more) :
    dialect.Lexes (first :: text ++ rest)
      (.ofWord (first :: text) :: more) := by
  have read : dialect.readLexeme (first :: text ++ rest) =
      some (.ofWord (first :: text), rest) := by
    simp only [readLexeme, readName_word starts continues ends]
    simp [Lexeme.ofName, starts]
  refine cons (isBlank_of_startsWord starts) read ?_ lexed
  change rest.length ≤ (text ++ rest).length
  rw [List.length_append]
  exact Nat.le_add_left _ _

/-- A plain word before something that ends it, a keyword or not. -/
theorem keyword (text : String) (lexeme : Lexeme)
    (plain : Text.isPlainWord text = true)
    (known : Lexeme.ofWord text.toList = lexeme) (ends : dialect.EndsName rest)
    (lexed : dialect.Lexes rest more) :
    dialect.Lexes (text.toList ++ rest) (lexeme :: more) := by
  unfold Text.isPlainWord at plain
  rw [← known]
  split at plain
  · cases plain
  · next first continued spelled =>
      simp only [Bool.and_eq_true, List.all_eq_true] at plain
      rw [spelled]
      exact word plain.1 plain.2 ends lexed

theorem name (dialect : Dialect) (name : List Char) :
    ∃ lexeme : Lexeme, lexeme.segments? = some (Text.splitOn (· == '.') name) ∧
      ∀ rest more, dialect.EndsName rest → dialect.Lexes rest more →
        dialect.Lexes (dialect.quoteChars name ++ rest) (lexeme :: more) := by
  cases split : Text.splitOn (· == '.') name with
  | nil => exact absurd split (Text.splitOn_ne_nil _ _)
  | cons segment segments =>
      obtain ⟨first, tail, quotes, kinds⟩ :=
        dialect.quoteSegment_eq_cons segment
      obtain ⟨after, starts⟩ : ∃ after,
          dialect.quoteChars name = first :: after := by
        rw [quoteChars, split, List.map_cons, quotes]
        exact ⟨_, List.intercalate_cons_cons_left⟩
      have bareOrNot : Text.startsWord first = true →
          isBareWord segment = true := by
        intro word
        rcases kinds with rfl | rfl | ⟨_, bare⟩
        · exact absurd word (by decide)
        · rw [startsWord_openingQuote] at word
          cases word
        · exact bare
      refine ⟨.ofName first (segment :: segments), ?_, ?_⟩
      · cases segments with
        | cons => rfl
        | nil =>
            cases word : Text.startsWord first with
            | false => simp [Lexeme.ofName, word, Lexeme.segments?]
            | true =>
                simp [Lexeme.ofName, word,
                  Lexeme.ofWord_of_isBareWord (bareOrNot word),
                  Lexeme.segments?]
      · intro rest more ends lexed
        have read := readName_quoteChars name ends
        rw [split, starts, List.cons_append] at read
        rw [starts, List.cons_append]
        refine cons ?_ ?_ ?_ lexed
        · rcases kinds with rfl | rfl | ⟨word, _⟩
          · decide
          · cases dialect <;> rfl
          · exact isBlank_of_startsWord word
        · simp only [readLexeme, List.head?_cons, read]
        · rw [List.length_append]
          exact Nat.le_add_left _ _

end Lexes

end Dialect

namespace Statement

variable {dialect : Dialect} {follows further : List Char → Prop}
  {first second : Statement} {lexemes others : List Lexeme}

/-- Wherever its parameters are counted from, the text of a statement consists
of some lexemes, if what follows it is as given. -/
def LexesBefore (dialect : Dialect) (follows : List Char → Prop)
    (statement : Statement) (lexemes : List Lexeme) : Prop :=
  ∀ before rest more, follows rest → dialect.Lexes rest more →
    dialect.Lexes
      ((statement.renderFrom
        (fun position _ => dialect.placeholder position) before).toList ++ rest)
      (lexemes ++ more)

/-- The text of a statement may follow another, if what follows
it is as given. -/
def Meets (dialect : Dialect) (follows : List Char → Prop)
    (statement : Statement) (further : List Char → Prop) : Prop :=
  ∀ before rest, further rest →
    follows
      ((statement.renderFrom
        (fun position _ => dialect.placeholder position) before).toList ++ rest)

namespace LexesBefore

theorem append (lexed : LexesBefore dialect follows first lexemes)
    (meets : Meets dialect follows second further)
    (otherLexed : LexesBefore dialect further second others) :
    LexesBefore dialect further (first ++ second) (lexemes ++ others) := by
  intro before rest more ends restLexed
  rw [renderFrom_append, String.toList_append, List.append_assoc,
    List.append_assoc]
  exact lexed _ _ _ (meets _ _ ends) (otherLexed _ _ _ ends restLexed)

theorem ofSql {text : String}
    (lexed : ∀ rest more, follows rest → dialect.Lexes rest more →
      dialect.Lexes (text.toList ++ rest) (lexemes ++ more)) :
    LexesBefore dialect follows (ofSql text) lexemes := by
  intro before rest more ends restLexed
  rw [renderFrom_ofSql]
  exact lexed rest more ends restLexed

/-- A parameter after text that may have anything after it. -/
theorem param (lexed : LexesBefore dialect (fun _ => True) first lexemes)
    (value : Param) :
    LexesBefore dialect dialect.EndsName (first.param value)
      (lexemes ++ [.placeholder]) := by
  intro before rest more ends restLexed
  rw [renderFrom_param, String.toList_append, List.append_assoc,
    List.append_assoc]
  exact lexed _ _ _ trivial (.placeholder _ ends restLexed)

theorem empty : LexesBefore dialect follows empty [] := by
  intro before rest more _ restLexed
  exact restLexed

end LexesBefore

end Statement

end RecordSql
