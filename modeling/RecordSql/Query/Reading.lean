import RecordSql.Dialect

/-!
# Reading the window of a query

The reference readers of row limits: which window of rows a server takes from
what stands right after SELECT and from what stands at the end of a query.
-/

namespace RecordSql.Dialect

/-- Reads a whole number, which ends before the first character
that is no digit. -/
def readCount (text : List Char) : Option (Nat × List Char) :=
  (Number.natOfDigits? (text.takeWhile Char.isDigit)).map fun count =>
    (count, text.dropWhile Char.isDigit)

/-- Reads a number of rows right after SELECT. -/
def readTop? (text : List Char) : Option Nat := do
  let rest ← Text.afterWord? "top " text
  let (limit, rest) ← readCount rest
  if rest = [' '] then some limit else none

def readLimitOffset? (text : List Char) : Option Page := do
  let rest ← Text.afterWord? " limit " text
  let (limit, rest) ← readCount rest
  if rest = [] then some ⟨limit, 0⟩
  else
    let rest ← Text.afterWord? " offset " rest
    let (offset, rest) ← readCount rest
    if rest = [] then some ⟨limit, offset⟩ else none

def readOffsetFetch? (text : List Char) : Option Page := do
  let rest ← Text.afterWord? " offset " text
  let (offset, rest) ← readCount rest
  let rest ← Text.afterWord? " rows fetch next " rest
  let (limit, rest) ← readCount rest
  let rest ← Text.afterWord? " rows only" rest
  if rest = [] then some ⟨limit, offset⟩ else none

/-- The window that a query asks for, if it asks for one, from what stands right
after SELECT and from what stands after all other clauses.  A limit in both
places is an error, and so is a limit at the end for SQL Server, unless the
query is ordered. -/
def readWindow? (dialect : Dialect) (ordered : Bool) (lead trail : List Char) :
    Option (Option Page) :=
  match dialect, lead, trail with
  | _, [], [] => some none
  | sqlserver, lead, [] => (readTop? lead).map fun limit => some ⟨limit, 0⟩
  | sqlserver, [], trail =>
      if ordered then (readOffsetFetch? trail).map some else none
  | sqlserver, _, _ => none
  | _, [], trail => (readLimitOffset? trail).map some
  | _, _, _ => none

end RecordSql.Dialect
