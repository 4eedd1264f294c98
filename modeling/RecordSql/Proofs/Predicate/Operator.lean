import RecordSql.Predicate.Reading
import RecordSql.Proofs.Predicate.Form
import RecordSql.Proofs.Predicate.Lexeme

/-!
# Operators in composed text

What follows the name in a composed condition is read as its operator with its
operands. The AND between the operands of BETWEEN is read with them, so that
every AND that is left joins conditions.
-/

namespace RecordSql

/-- The operator as SQL has it, with one LIKE for all patterns. -/
def Operator.written : Operator → Operator
  | .startsWith | .endsWith => .contains
  | operator => operator

/-- Lexemes are an operator with so many operands. -/
def Lexeme.ReadsOperator (lexemes : List Lexeme) (operator : Operator)
    (operands : Nat) : Prop :=
  ∀ rest, readOperator (lexemes ++ rest) = some (operator, operands, rest)

namespace Statement

variable {dialect : Dialect} {other : Statement}

/-- The text of a statement is an operator with so many operands. -/
def ReadsOperator (dialect : Dialect) (statement : Statement)
    (operator : Operator) (operands : Nat) : Prop :=
  ∃ lexemes, LexesBefore dialect dialect.EndsName statement lexemes ∧
    Lexeme.ReadsOperator lexemes operator operands

/-- The words of predicates that are not names. -/
private def keywords : List (String × Lexeme) :=
  [("AND", .and), ("OR", .or), ("NOT", .not), ("IN", .in), ("LIKE", .like),
    ("BETWEEN", .between), ("IS", .is), ("NULL", .null),
    ("REGEXP", .word "REGEXP".toList)]

private theorem keywords_known : ∀ keyword ∈ keywords,
    Text.isPlainWord keyword.1 = true ∧
      Lexeme.ofWord keyword.1.toList = keyword.2 := by
  decide +kernel

private theorem lexes_keyword (text : String) (lexeme : Lexeme)
    {rest : List Char} {more : List Lexeme}
    (keyword : (text, lexeme) ∈ keywords) (ends : dialect.EndsName rest)
    (lexed : dialect.Lexes rest more) :
    dialect.Lexes (' ' :: (text.toList ++ rest)) (lexeme :: more) := by
  obtain ⟨plain, known⟩ := keywords_known _ keyword
  exact (Dialect.Lexes.keyword text lexeme plain known ends lexed).blank

private theorem lexes_keyword_blank (text : String) (lexeme : Lexeme)
    {rest : List Char} {more : List Lexeme}
    (keyword : (text, lexeme) ∈ keywords)
    (lexed : dialect.Lexes (' ' :: rest) more) :
    dialect.Lexes (' ' :: (text.toList ++ ' ' :: rest)) (lexeme :: more) :=
  lexes_keyword text lexeme keyword (Dialect.endsName_cons (by decide)) lexed

private theorem lexes_in {rest : List Char} {more : List Lexeme}
    (lexed : dialect.Lexes rest more) :
    dialect.Lexes (' ' :: ("IN".toList ++ ' ' :: '(' :: rest))
      (.in :: .opening :: more) :=
  lexes_keyword_blank "IN" .in (by simp [keywords])
    (Dialect.Lexes.sign (by decide) rfl (Nat.le_refl _) lexed).blank

private theorem lexesBefore_keyword (text : String) (lexeme : Lexeme)
    (keyword : (text, lexeme) ∈ keywords) :
    LexesBefore dialect (fun _ => True)
      (ofSql (" " ++ text ++ " ")) [lexeme] := by
  refine .ofSql fun rest more _ lexed => ?_
  simpa using lexes_keyword_blank text lexeme keyword lexed.blank

theorem lexesBefore_and :
    LexesBefore dialect (fun _ => True) (ofSql " AND ") [.and] :=
  lexesBefore_keyword "AND" .and (by simp [keywords])

theorem lexesBefore_or :
    LexesBefore dialect (fun _ => True) (ofSql " OR ") [.or] :=
  lexesBefore_keyword "OR" .or (by simp [keywords])

theorem lexesBefore_closing :
    LexesBefore dialect dialect.EndsName (ofSql ")") [.closing] :=
  .ofSql fun _ _ _ lexed => .sign (by decide) rfl (Nat.le_refl _) lexed

/-- A text that starts with a blank, a parenthesis or a comma ends what
stands before it. -/
theorem meets_ofSql_append {text : String} {first : Char} {tail : List Char}
    (starts : text.toList = first :: tail) (separates : first ∈ [' ', ')', ','])
    (further : List Char → Prop) :
    Meets dialect dialect.EndsName (ofSql text ++ other) further := by
  intro before rest _
  rw [renderFrom_append, renderFrom_ofSql, String.toList_append, starts]
  exact Dialect.endsName_cons separates

theorem meets_ofSql {text : String} {first : Char} {tail : List Char}
    (starts : text.toList = first :: tail) (separates : first ∈ [' ', ')', ','])
    (further : List Char → Prop) :
    Meets dialect dialect.EndsName (ofSql text) further := by
  rw [← append_empty (ofSql text)]
  exact meets_ofSql_append starts separates further

private theorem readsOperator_param {text : String} {lexemes : List Lexeme}
    {operator : Operator}
    (lexed : LexesBefore dialect (fun _ => True) (ofSql text) lexemes)
    (reads : Lexeme.ReadsOperator (lexemes ++ [.placeholder]) operator 1) :
    ReadsOperator dialect ((ofSql text).param .null) operator 1 :=
  ⟨_, lexed.param .null, reads⟩

private theorem readsOperator_between {text : String} {lexemes : List Lexeme}
    {operator : Operator}
    (lexed : LexesBefore dialect (fun _ => True) (ofSql text) lexemes)
    (reads : Lexeme.ReadsOperator
      (lexemes ++ [.placeholder, .and, .placeholder]) operator 2) :
    ReadsOperator dialect
      ((((ofSql text).param .null).sql " AND ").param .null) operator 2 := by
  have meets : Meets dialect dialect.EndsName (ofSql " AND ") fun _ => True :=
    meets_ofSql rfl (by decide) _
  have both := ((lexed.param .null).append meets lexesBefore_and).param .null
  rw [append_ofSql] at both
  refine ⟨_, both, ?_⟩
  simpa using reads

/-- The lexemes of a list of at least one placeholder. -/
private def listLexemes : Nat → List Lexeme
  | 0 => [.placeholder, .closing]
  | count + 1 => .placeholder :: .comma :: listLexemes count

private theorem readList_listLexemes (count : Nat) (rest : List Lexeme) :
    Lexeme.readList (listLexemes count ++ rest) = some (count + 1, rest) := by
  induction count with
  | zero => rfl
  | succ count induction => simp [listLexemes, Lexeme.readList, induction]

private theorem lexesBefore_list (count : Nat) :
    LexesBefore dialect dialect.EndsName
      (empty.param .null ++
        eachAfter ", " (.replicate count (empty.param .null)) ++ ofSql ")")
      (listLexemes count) := by
  have separator : LexesBefore dialect (fun _ => True) (ofSql ", ") [.comma] :=
    .ofSql fun rest more _ lexed =>
      .sign (by decide) rfl (Nat.le_refl _) lexed.blank
  have single :
      LexesBefore dialect dialect.EndsName (empty.param .null) [.placeholder] :=
    LexesBefore.empty.param .null
  induction count with
  | zero =>
      rw [List.replicate_zero, eachAfter, append_empty]
      exact single.append (meets_ofSql rfl (by decide) _) lexesBefore_closing
  | succ count induction =>
      rw [List.replicate_succ, eachAfter, append_assoc, append_assoc,
        append_assoc]
      rw [append_assoc] at induction
      refine single.append (meets_ofSql_append rfl (by decide) _) ?_
      exact separator.append (fun _ _ _ => trivial) induction

private theorem readsOperator_list {text : String} {lexemes : List Lexeme}
    {operator : Operator}
    (lexed : LexesBefore dialect (fun _ => True) (ofSql text) lexemes)
    {count : Nat} (present : 0 < count)
    (reads : ∀ rest, Lexeme.readOperator (lexemes ++ rest) =
      (Lexeme.readList rest).map fun (count, rest) => (operator, count, rest)) :
    ReadsOperator dialect
      ((ofSql text ++ Composer.paramList (.replicate count .null)).sql ")")
      operator count := by
  obtain ⟨count, rfl⟩ := Nat.exists_eq_succ_of_ne_zero (Nat.ne_of_gt present)
  refine ⟨lexemes ++ listLexemes count, ?_, ?_⟩
  · have whole := lexed.append (fun _ _ _ => trivial) (lexesBefore_list count)
    rwa [Composer.paramList_eq_join, List.map_replicate, List.replicate_succ,
      join_cons, ← append_ofSql, append_assoc]
  · intro rest
    rw [List.append_assoc, reads, readList_listLexemes]
    rfl

private theorem lexesBefore_comparison {operator : Operator}
    (compares : operator.isComparison = true) :
    LexesBefore dialect (fun _ => True) (ofSql (" " ++ operator.token ++ " "))
      [.comparison operator] := by
  refine .ofSql fun rest more _ lexed => ?_
  have read := (Dialect.Lexes.comparison compares lexed).blank
  simpa using read

/-- What follows the name in a condition is its operator with its operands. -/
theorem readsOperator_form (dialect : Dialect) (operator : Operator)
    {count : Nat}
    (counted : operator = .inList ∨ operator = .notInList → 0 < count)
    (fixed : operator ≠ .inList → operator ≠ .notInList →
      count = operator.operandCount) :
    ReadsOperator dialect (operator.form count) operator.written count := by
  cases operator
  case equal | notEqual | greater | less | greaterOrEqual | lessOrEqual =>
    rw [fixed (by simp) (by simp)]
    exact readsOperator_param (lexesBefore_comparison rfl) fun _ => rfl
  case contains | startsWith | endsWith =>
    rw [fixed (by simp) (by simp)]
    exact readsOperator_param
      (lexesBefore_keyword "LIKE" .like (by simp [keywords])) fun _ => rfl
  case regexp =>
    rw [fixed (by simp) (by simp)]
    refine readsOperator_param
      (lexesBefore_keyword "REGEXP" (.word "REGEXP".toList)
        (by simp [keywords])) fun rest => ?_
    have spelled : Text.lowerAscii (String.ofList "REGEXP".toList) =
        "regexp" := by
      decide +kernel
    exact if_pos spelled
  case inList =>
    have lexed :
        LexesBefore dialect (fun _ => True) (ofSql " IN (") [.in, .opening] :=
      .ofSql fun _ _ _ lexed => lexes_in lexed
    exact readsOperator_list lexed (counted (.inl rfl)) fun _ => rfl
  case notInList =>
    have lexed : LexesBefore dialect (fun _ => True)
        (ofSql " NOT IN (") [.not, .in, .opening] :=
      .ofSql fun _ _ _ lexed =>
        lexes_keyword_blank "NOT" .not (by simp [keywords]) (lexes_in lexed)
    exact readsOperator_list lexed (counted (.inr rfl)) fun _ => rfl
  case between =>
    rw [fixed (by simp) (by simp)]
    have lexed :
        LexesBefore dialect (fun _ => True) (ofSql " BETWEEN ") [.between] :=
      lexesBefore_keyword "BETWEEN" .between (by simp [keywords])
    exact readsOperator_between lexed fun _ => rfl
  case notBetween =>
    rw [fixed (by simp) (by simp)]
    have lexed : LexesBefore dialect (fun _ => True)
        (ofSql " NOT BETWEEN ") [.not, .between] :=
      .ofSql fun _ _ _ lexed => lexes_keyword_blank "NOT" .not
        (by
          simp [keywords])
        (lexes_keyword_blank "BETWEEN" .between
          (by simp [keywords]) lexed.blank)
    exact readsOperator_between lexed fun _ => rfl
  case isNull =>
    rw [fixed (by simp) (by simp)]
    refine ⟨[.is, .null], .ofSql fun rest more ends lexed => ?_, fun _ => rfl⟩
    have null := lexes_keyword "NULL" .null (by simp [keywords]) ends lexed
    exact lexes_keyword_blank "IS" .is (by simp [keywords]) null
  case notNull =>
    rw [fixed (by simp) (by simp)]
    refine ⟨[.is, .not, .null], .ofSql fun rest more ends lexed => ?_,
      fun _ => rfl⟩
    have null := lexes_keyword "NULL" .null (by simp [keywords]) ends lexed
    have notNull := lexes_keyword_blank "NOT" .not (by simp [keywords]) null
    exact lexes_keyword_blank "IS" .is (by simp [keywords]) notNull

end Statement

end RecordSql
