import RecordSql.Predicate.Lexeme

/-!
# Reading predicates

A reference reader of SQL conditions.  AND binds tighter than OR, the AND of
BETWEEN is its own, and what stands between parentheses is one operand.  A
predicate is read as the alternatives that OR separates, each the conjuncts
that AND separates.
-/

namespace RecordSql

/-- What a predicate says, its operands only counted. -/
inductive Clause where
  /-- A comparison of the column of a name, given by its segments. -/
  | leaf (segments : List String) (operator : Operator) (operands : Nat)
  /-- One of some conjunctions. -/
  | choice (runs : List (List Clause))

namespace Lexeme

/-- Reads the rest of a list of placeholders and counts them. -/
def readList : List Lexeme → Option (Nat × List Lexeme)
  | .placeholder :: .comma :: rest => (readList rest).map fun (count, rest) =>
      (count + 1, rest)
  | .placeholder :: .closing :: rest => some (1, rest)
  | _ => none

/-- Reads an operator with its operands.  Every LIKE is that of texts that
contain another. -/
def readOperator : List Lexeme → Option (Operator × Nat × List Lexeme)
  | .comparison operator :: .placeholder :: rest => some (operator, 1, rest)
  | .like :: .placeholder :: rest => some (.contains, 1, rest)
  | .word text :: .placeholder :: rest =>
    if Text.lowerAscii (String.ofList text) = "regexp" then
      some (.regexp, 1, rest)
    else none
  | .in :: .opening :: rest => (readList rest).map fun (count, rest) =>
      (.inList, count, rest)
  | .not :: .in :: .opening :: rest =>
    (readList rest).map fun (count, rest) => (.notInList, count, rest)
  | .between :: .placeholder :: .and :: .placeholder :: rest =>
      some (.between, 2, rest)
  | .not :: .between :: .placeholder :: .and :: .placeholder :: rest =>
    some (.notBetween, 2, rest)
  | .is :: .null :: rest => some (.isNull, 0, rest)
  | .is :: .not :: .null :: rest => some (.notNull, 0, rest)
  | _ => none

def readLeaf : List Lexeme → Option (Clause × List Lexeme)
  | [] => none
  | first :: rest => do
    let segments ← first.segments?
    let (operator, operands, rest) ← readOperator rest
    some (.leaf (segments.map String.ofList) operator operands, rest)

/-- Reads an operand of AND and OR: alternatives between parentheses,
or a comparison. -/
def readOperand
    (readInside : List Lexeme → Option (List (List Clause) × List Lexeme)) :
    List Lexeme → Option (Clause × List Lexeme)
  | .opening :: inside =>
    match readInside inside with
    | some (runs, .closing :: rest) => some (.choice runs, rest)
    | _ => none
  | lexemes => readLeaf lexemes

/-- Puts a conjunct before the first of some alternatives. -/
def conjoin (first : Clause) : List (List Clause) → List (List Clause)
  | [] => [[first]]
  | run :: runs => (first :: run) :: runs

/-- Reads alternatives with at most so many operands one after another or
inside each other. -/
def readChoice : Nat → List Lexeme → Option (List (List Clause) × List Lexeme)
  | 0, _ => none
  | count + 1, lexemes => do
    let (first, rest) ← readOperand (readChoice count) lexemes
    match rest with
    | .and :: rest => do
      let (runs, rest) ← readChoice count rest
      some (conjoin first runs, rest)
    | .or :: rest => do
      let (runs, rest) ← readChoice count rest
      some ([first] :: runs, rest)
    | rest => some ([[first]], rest)

end Lexeme

/-- Reads a predicate, which must be the whole text. -/
def Dialect.readPredicate? (dialect : Dialect) (text : String) :
    Option Clause :=
  match dialect.lexemes? text.toList with
  | none => none
  | some lexemes =>
    match Lexeme.readChoice lexemes.length lexemes with
    | some (runs, []) => some (.choice runs)
    | _ => none

end RecordSql
