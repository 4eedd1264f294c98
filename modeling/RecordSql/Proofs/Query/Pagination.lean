import RecordSql.Proofs.Number.Whole
import RecordSql.Proofs.Query
import RecordSql.Proofs.Text
import RecordSql.Query.Reading

/-!
# Windows of queries

A query asks for one window of rows in one place, either right after SELECT or
at the end, and what a server reads there is the window that was given, or else
that of the filter.
-/

namespace RecordSql

namespace Page

def topText (page : Page) : String := "TOP " ++ Number.natText page.limit ++ " "

def limitText (page : Page) : String :=
  if 0 < page.offset then
    " LIMIT " ++ Number.natText page.limit ++ " OFFSET " ++
      Number.natText page.offset
  else " LIMIT " ++ Number.natText page.limit

def fetchText (page : Page) : String :=
  " OFFSET " ++ Number.natText page.offset ++
    " ROWS FETCH NEXT " ++ Number.natText page.limit ++ " ROWS ONLY"

end Page

namespace Dialect

variable {page : Page} {rest : List Char}

/-- An order without effect, for a query that has none of its own. -/
def anyOrder : String := " ORDER BY (SELECT NULL)"

private theorem trailingPage_sqlserver (page : Page) (ordered : Bool) :
    sqlserver.trailingPage page ordered =
      (if ordered then "" else anyOrder) ++ page.fetchText := by
  change (if ordered then "" else anyOrder) ++ " OFFSET " ++ _ ++
    _ ++ _ ++ _ = _
  simp only [Page.fetchText, String.append_assoc]

private theorem readCount_digitChars (count : Nat) (ends : EndsDigits rest) :
    readCount (Number.digitChars count ++ rest) = some (count, rest) := by
  have every : ∀ digit ∈ Number.digitChars count,
      digit.isDigit = true := fun _ =>
    Nat.isDigit_of_mem_toDigits (by decide) (by decide)
  rw [readCount, Number.takeWhile_digits every ends,
    Number.dropWhile_digits every ends, Number.natOfDigits?_digitChars]
  rfl

private theorem readCount_before (count : Nat) (word : String)
    (rest : List Char) (blank : (word.toList ++ rest).head? = some ' ') :
    readCount (Number.digitChars count ++ (word.toList ++ rest)) =
      some (count, word.toList ++ rest) := by
  apply readCount_digitChars
  intro character first
  obtain rfl : ' ' = character := by simpa [blank] using first
  rfl

private theorem readCount_last (count : Nat) :
    readCount (Number.digitChars count) = some (count, []) := by
  have ends : EndsDigits [] := by
    intro character first
    cases first
  have counted := readCount_digitChars count ends
  rwa [List.append_nil] at counted

private theorem readTop?_topText (page : Page) :
    readTop? page.topText.toList = some page.limit := by
  have top (text : List Char) : Text.afterWord? "top " ("TOP ".toList ++ text) =
      some text :=
    Text.afterWord?_append rfl text
  have written : page.topText.toList =
      "TOP ".toList ++
        (Number.digitChars page.limit ++ (" ".toList ++ [])) := by
    simp [Page.topText, Number.natText]
  have blank : " ".toList ++ [] = [' '] := rfl
  simp only [readTop?, written, Option.bind_eq_bind, Option.bind_some, top,
    readCount_before page.limit " " [] rfl, if_pos blank]

private theorem afterWord?_offset (text : List Char) :
    Text.afterWord? " offset " (" OFFSET ".toList ++ text) = some text :=
  Text.afterWord?_append rfl text

private theorem readLimitOffset?_limitText (page : Page) :
    readLimitOffset? page.limitText.toList = some page := by
  have limits (text : List Char) :
      Text.afterWord? " limit " (" LIMIT ".toList ++ text) = some text :=
    Text.afterWord?_append rfl text
  obtain ⟨limit, offset⟩ := page
  cases offset with
  | zero =>
      have written : (Page.limitText ⟨limit, 0⟩).toList =
          " LIMIT ".toList ++ Number.digitChars limit := by
        simp [Page.limitText, Number.natText]
      simp only [readLimitOffset?, written, Option.bind_eq_bind,
        Option.bind_some, limits, readCount_last, if_true]
  | succ more =>
      have written : (Page.limitText ⟨limit, more + 1⟩).toList =
          " LIMIT ".toList ++ (Number.digitChars limit ++
            (" OFFSET ".toList ++ Number.digitChars (more + 1))) := by
        simp [Page.limitText, Number.natText]
      have counted :=
        readCount_before limit " OFFSET " (Number.digitChars (more + 1)) rfl
      have goesOn : " OFFSET ".toList ++ Number.digitChars (more + 1) ≠ [] := by
        simp
      simp only [readLimitOffset?, written, Option.bind_eq_bind,
        Option.bind_some, limits, counted, if_neg goesOn, afterWord?_offset,
        readCount_last, if_true]

private theorem readOffsetFetch?_fetchText (page : Page) :
    readOffsetFetch? page.fetchText.toList = some page := by
  have fetches (text : List Char) :
      Text.afterWord? " rows fetch next " (" ROWS FETCH NEXT ".toList ++ text) =
        some text :=
    Text.afterWord?_append rfl text
  have closes : Text.afterWord? " rows only" (" ROWS ONLY".toList ++ []) =
    some [] := rfl
  have written : page.fetchText.toList =
      " OFFSET ".toList ++
        (Number.digitChars page.offset ++ (" ROWS FETCH NEXT ".toList ++
          (Number.digitChars page.limit ++ (" ROWS ONLY".toList ++ [])))) := by
    simp [Page.fetchText, Number.natText]
  have skipped := readCount_before page.offset " ROWS FETCH NEXT "
    (Number.digitChars page.limit ++ (" ROWS ONLY".toList ++ [])) rfl
  have limited := readCount_before page.limit " ROWS ONLY" [] rfl
  simp only [readOffsetFetch?, written, Option.bind_eq_bind, Option.bind_some,
    afterWord?_offset, skipped, fetches, limited, closes, if_true]

private theorem readOffsetFetch?_limitText (page : Page) :
    readOffsetFetch? page.limitText.toList = none := by
  have other : ∀ text,
      Text.afterWord? " offset " (" LIMIT ".toList ++ text) = none :=
    Text.afterWord?_eq_none (by decide) (by decide)
  obtain ⟨text, written⟩ : ∃ text,
      page.limitText.toList = " LIMIT ".toList ++ text := by
    unfold Page.limitText
    split
    · rw [String.append_assoc, String.append_assoc, String.toList_append]
      exact ⟨_, rfl⟩
    · rw [String.toList_append]
      exact ⟨_, rfl⟩
  simp only [readOffsetFetch?, written, Option.bind_eq_bind,
    Option.bind_none, other]

end Dialect

namespace Criteria

def sort : Criteria → List SortKey
  | .filter given => given.sort
  | _ => []

def groupBy : Criteria → List String
  | .filter given => given.groupBy
  | _ => []

def groupClause (criteria : Criteria) : String :=
  if criteria.groupBy.isEmpty then ""
  else " GROUP BY " ++ ", ".intercalate criteria.groupBy

/-- The order of the criteria if they have one.  Otherwise there is an order
only before a limit that takes one, and then it has no effect. -/
def orderClause (criteria : Criteria) (limit : String) : String :=
  if criteria.sort.isEmpty then
    if (Dialect.readOffsetFetch? limit.toList).isSome then Dialect.anyOrder
    else ""
  else
    " ORDER BY " ++ ", ".intercalate
      (criteria.sort.map fun key => key.field ++ " " ++ key.direction.keyword)

/-- What a query by criteria has after its condition. -/
def clauses (criteria : Criteria) (limit : String) : String :=
  criteria.groupClause ++ criteria.orderClause limit ++ limit

/-- The window that criteria ask for by themselves: that of a filter with a
positive limit. -/
inductive OwnWindow : Criteria → Option Page → Prop where
  | all : OwnWindow .all none
  | keys (keys : Keys) : OwnWindow (.keys keys) none
  | unlimited {filter : Filter} :
      filter.limit.toInt ≤ 0 → OwnWindow (.filter filter) none
  | limited {filter : Filter} {limit offset : Nat} :
      0 < filter.limit.toInt → (limit : Int) = filter.limit.toInt →
        (offset : Int) = max filter.offset.toInt 0 →
          OwnWindow (.filter filter) (some ⟨limit, offset⟩)

theorem ownWindow_page? (criteria : Criteria) :
    criteria.OwnWindow criteria.page? := by
  cases criteria with
  | all => exact .all
  | keys keys => exact .keys keys
  | filter filter =>
      change OwnWindow (.filter filter) filter.page?
      unfold Filter.page?
      split
      · next unlimited => exact .unlimited unlimited
      · next positive => exact .limited (by omega) (by omega) (by omega)

variable {criteria : Criteria} {limit : String}

private theorem isOrdered_eq (criteria : Criteria) :
    Composer.isOrdered criteria = !criteria.sort.isEmpty := by
  cases criteria with
  | all | keys => rfl
  | filter given => rfl

/-- The clauses of criteria themselves, without a limit after them. -/
private theorem orderingOf_eq (criteria : Criteria) :
    Composer.orderingOf criteria = criteria.groupClause ++
      if criteria.sort.isEmpty then ""
      else " ORDER BY " ++ ", ".intercalate
          (criteria.sort.map fun key =>
            key.field ++ " " ++ key.direction.keyword) := by
  cases criteria with
  | all | keys => rfl
  | filter given => rfl

/-- Without a limit that takes an order the clauses are those of the
criteria. -/
private theorem clauses_of_unskipped
    (other : Dialect.readOffsetFetch? limit.toList = none) :
    criteria.clauses limit = Composer.orderingOf criteria ++ limit := by
  rw [orderingOf_eq, clauses, orderClause, other]
  rfl

private theorem clauses_fetchText (criteria : Criteria) (page : Page) :
    criteria.clauses page.fetchText =
      Composer.orderingOf criteria ++
        ((if Composer.isOrdered criteria then "" else Dialect.anyOrder) ++
          page.fetchText) := by
  rw [orderingOf_eq, clauses, orderClause, Dialect.readOffsetFetch?_fetchText,
    isOrdered_eq]
  cases criteria.sort.isEmpty with
  | true => simp [Dialect.anyOrder, String.append_assoc]
  | false => simp [String.append_assoc]

private theorem orderClause_fetchText_ne (criteria : Criteria) (page : Page) :
    criteria.orderClause page.fetchText ≠ "" := by
  rw [orderClause, Dialect.readOffsetFetch?_fetchText]
  split
  · simp [Dialect.anyOrder]
  · simp

end Criteria

namespace Dialect

variable {dialect : Dialect} {window : Option Page} {page : Page}
  {trail : List Char}

private theorem readWindow?_of_readTop? {ordered : Bool} {lead : List Char}
    {limit : Nat} (read : readTop? lead = some limit) :
    sqlserver.readWindow? ordered lead [] = some (some ⟨limit, 0⟩) := by
  cases lead with
  | nil => cases read
  | cons first rest =>
      exact congrArg (Option.map fun limit => some (Page.mk limit 0)) read

private theorem readWindow?_of_readOffsetFetch?
    (read : readOffsetFetch? trail = some page) :
    sqlserver.readWindow? true [] trail = some (some page) := by
  cases trail with
  | nil => cases read
  | cons first rest => exact congrArg (Option.map some) read

private theorem readWindow?_of_readLimitOffset? {ordered : Bool}
    (plain : dialect ≠ sqlserver) (read : readLimitOffset? trail = some page) :
    dialect.readWindow? ordered [] trail = some (some page) := by
  cases trail with
  | nil => cases read
  | cons first rest =>
      cases dialect with
      | sqlserver => exact absurd rfl plain
      | mysql _ | sqlite => exact congrArg (Option.map some) read

/-- A server understands a window in one place alone. -/
private theorem readWindow?_once {ordered : Bool} {lead : List Char}
    (read : dialect.readWindow? ordered lead trail = some window) :
    (window ≠ none → (lead = [] ↔ trail ≠ [])) ∧
      (window = none → lead = [] ∧ trail = []) := by
  unfold readWindow? at read
  split at read
  · cases read
    simp
  · next leads =>
      obtain ⟨page, _, rfl⟩ := Option.map_eq_some_iff.mp read
      simpa using leads
  · next trails =>
      split at read
      · obtain ⟨page, _, rfl⟩ := Option.map_eq_some_iff.mp read
        simpa using trails
      · cases read
  · cases read
  · next trails =>
      obtain ⟨page, _, rfl⟩ := Option.map_eq_some_iff.mp read
      simpa using trails
  · cases read

/-- What stands right after SELECT and what stands at the end of a query by some
criteria ask for a window in one of the two places, and for none in neither. -/
structure Limits (dialect : Dialect) (criteria : Criteria)
    (window : Option Page) (lead limit : String) : Prop where
  read : dialect.readWindow?
      (criteria.orderClause limit != "") lead.toList limit.toList =
    some window
  once : window ≠ none → (lead = "" ↔ limit ≠ "")
  unlimited : window = none → lead = "" ∧ limit = ""

variable {criteria : Criteria} {lead limit : String}

private theorem limits_of_read
    (read : dialect.readWindow?
        (criteria.orderClause limit != "") lead.toList limit.toList =
      some window) : dialect.Limits criteria window lead limit := by
  obtain ⟨once, unlimited⟩ := readWindow?_once read
  simp only [ne_eq, String.toList_eq_nil_iff] at once unlimited
  exact ⟨read, once, unlimited⟩

/-- In a SELECT a window is written at the end, unless SQL Server has
no rows to skip. -/
private theorem pagePlace (dialect : Dialect) (page : Page) :
    (dialect.pagePrefix? page = none ∧
      ∀ ordered, dialect.pageSuffix? page ordered =
        some (dialect.trailingPage page ordered)) ∨
      dialect = sqlserver ∧ page.offset = 0 ∧
        dialect.pagePrefix? page = some ("TOP " ++ Number.natText page.limit) ∧
        ∀ ordered, dialect.pageSuffix? page ordered = none := by
  cases dialect with
  | mysql _ | sqlite => exact .inl ⟨rfl, fun _ => rfl⟩
  | sqlserver =>
      by_cases unskipped : page.offset = 0
      · exact .inr ⟨rfl, unskipped, if_pos unskipped, fun _ => if_pos unskipped⟩
      · exact .inl ⟨if_neg unskipped, fun _ => if_neg unskipped⟩

private theorem limits_nothing (dialect : Dialect) (criteria : Criteria) :
    dialect.Limits criteria none "" "" := by
  apply limits_of_read
  cases dialect <;> rfl

private theorem limits_limitText (plain : dialect ≠ sqlserver)
    (criteria : Criteria) (page : Page) :
    dialect.Limits criteria (some page) "" page.limitText :=
  limits_of_read
    (readWindow?_of_readLimitOffset? plain (readLimitOffset?_limitText page))

private theorem limits_topText (criteria : Criteria) (page : Page)
    (unskipped : page.offset = 0) :
    sqlserver.Limits criteria (some page) page.topText "" := by
  obtain ⟨limit, offset⟩ := page
  cases unskipped
  exact limits_of_read (readWindow?_of_readTop? (readTop?_topText ⟨limit, 0⟩))

private theorem limits_fetchText (criteria : Criteria) (page : Page) :
    sqlserver.Limits criteria (some page) "" page.fetchText := by
  apply limits_of_read
  have ordered : (criteria.orderClause page.fetchText != "") = true := by
    simpa using criteria.orderClause_fetchText_ne page
  rw [ordered]
  exact readWindow?_of_readOffsetFetch? (readOffsetFetch?_fetchText page)

end Dialect

namespace Composer

variable {composer : Composer} {metadata : Option Table} {criteria : Criteria}

/-- What a SELECT has before its fields. -/
private def lead (composer : Composer) (window : Option Page) : String :=
  match window.bind composer.dialect.pagePrefix? with
  | some limit => limit ++ " "
  | none => ""

private theorem selectHead_eq (table : String) (fields : List String)
    (window : Option Page) : composer.selectHead table fields window =
      "SELECT " ++ composer.lead window ++
        composer.fieldList fields ++ " FROM " ++
        composer.quote table :=
  rfl

/-- A window may always be written at the end. -/
private theorem exists_limit_trailing (dialect : Dialect) (criteria : Criteria)
    (window : Option Page) :
    ∃ limit, dialect.Limits criteria window "" limit ∧
      orderingOf criteria ++ (window.map fun page =>
        dialect.trailingPage page (isOrdered criteria)).getD "" =
            criteria.clauses limit := by
  cases window with
  | none =>
      refine ⟨"", dialect.limits_nothing criteria, ?_⟩
      rw [Criteria.clauses_of_unskipped rfl]
      rfl
  | some page =>
      cases dialect with
      | mysql _ | sqlite =>
          refine ⟨page.limitText,
            Dialect.limits_limitText (by simp) criteria page, ?_⟩
          rw [Criteria.clauses_of_unskipped
            (Dialect.readOffsetFetch?_limitText page)]
          rfl
      | sqlserver =>
          refine ⟨page.fetchText, Dialect.limits_fetchText criteria page, ?_⟩
          rw [Criteria.clauses_fetchText, ← Dialect.trailingPage_sqlserver]
          rfl

/-- It is written at the end of a SELECT if it is not written right
after the keyword. -/
private theorem exists_limit_select (composer : Composer) (criteria : Criteria)
    (window : Option Page) :
    ∃ limit,
      composer.dialect.Limits criteria window (composer.lead window) limit ∧
        composer.selectTail criteria window = criteria.clauses limit := by
  cases window with
  | none => exact exists_limit_trailing composer.dialect criteria none
  | some page =>
      rcases composer.dialect.pagePlace page with
        ⟨leads, suffix⟩ | ⟨server, unskipped, leads, suffix⟩
      · have trailing :=
          exists_limit_trailing composer.dialect criteria (some page)
        simpa [lead, selectTail, leads, suffix] using trailing
      · have top : composer.lead (some page) = page.topText := by
          simp [lead, leads, Page.topText]
        refine ⟨"", ?_, ?_⟩
        · rw [top, server]
          exact Dialect.limits_topText criteria page unskipped
        · rw [Criteria.clauses_of_unskipped rfl]
          simp [selectTail, suffix]

/-- Every query by some criteria asks for one window in one place.  A SELECT
asks for the window that is given, or else for the criteria's own, and a query
of the caller for that at its end. -/
structure AsksOnce (composer : Composer) (metadata : Option Table)
    (criteria : Criteria) : Prop where
  select : ∀ table fields page, ∃ own lead limit, criteria.OwnWindow own ∧
    composer.dialect.Limits criteria (page <|> own) lead limit ∧
    Surrounds ("SELECT " ++ lead ++ composer.fieldList fields ++ " FROM " ++
      composer.quote table) (criteria.clauses limit)
      (composer.predicate metadata criteria)
      (composer.select metadata table fields criteria page)
  extendQuery : ∀ query, ∃ own limit, criteria.OwnWindow own ∧
    composer.dialect.Limits criteria own "" limit ∧
    Surrounds query (criteria.clauses limit)
      (composer.predicate metadata criteria)
      (composer.extendQuery metadata query criteria)

theorem asksOnce (composer : Composer) (metadata : Option Table)
    (criteria : Criteria) : composer.AsksOnce metadata criteria where
  select table fields page := by
    obtain ⟨limit, limits, tail⟩ :=
      composer.exists_limit_select criteria (page <|> criteria.page?)
    refine ⟨criteria.page?, _, limit, criteria.ownWindow_page?, limits, ?_⟩
    rw [← selectHead_eq, ← tail]
    exact surrounds_select table fields page
  extendQuery query := by
    obtain ⟨limit, limits, tail⟩ :=
      exists_limit_trailing composer.dialect criteria criteria.page?
    refine ⟨criteria.page?, limit, criteria.ownWindow_page?, limits, ?_⟩
    rw [← tail]
    exact surrounds_extendQuery query

end Composer

end RecordSql
