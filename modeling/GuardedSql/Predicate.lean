import GuardedSql.Filter
import GuardedSql.Statement
import GuardedSql.Whitelist

/-!
# Predicates

What filters come to once the columns are checked and the filters without a
value are left out.  A predicate is written after `1=1`, so that its first term
may carry a connective too.

`Predicate.holds` reads a predicate as a database does: `1=1` is true and `AND`
binds tighter than `OR`.
-/

namespace GuardedSql

/-! ## Conditions -/

/-- What a column is tested for. -/
inductive Test where
  | compare (symbol : String) (v : Value)
  | like (pattern : Value)
  | oneOf (vs : List Value)
  /-- The column is between two values, both included. -/
  | within (low high : Value)

structure Condition where
  column : String
  test : Test

namespace Condition

/-- The text of a condition.  Values are represented by question marks. -/
def text (c : Condition) : String :=
  match c.test with
  | .compare symbol _ => c.column ++ " " ++ symbol ++ " ?"
  | .like _ => c.column ++ " LIKE ?"
  | .oneOf vs => c.column ++ " IN (" ++ Text.questionMarks vs.length ++ ")"
  | .within _ _ => c.column ++ " BETWEEN ? AND ?"

/-- The values of a condition, in the order of its question marks. -/
def args (c : Condition) : List Value :=
  match c.test with
  | .compare _ v => [v]
  | .like pattern => [pattern]
  | .oneOf vs => vs
  | .within low high => [low, high]

end Condition

/-- The test that a filter makes, if it makes one.  A single value that is blank
and an empty list make none; a right-hand side that does not fit the operator is
an error. -/
def Filter.test? (f : Filter) : Except BuildError (Option Test) :=
  if !f.operator.expectsList && f.operand.isBlank then .ok none
  else
    match f.operator, f.operand with
    | .like, .single v => .ok (some (.like v.pattern))
    | .orLike, .single v => .ok (some (.like v.pattern))
    | .inList, .list vs => .ok (if vs.isEmpty then none else some (.oneOf vs))
    | .inList, _ => .error (.valueShape f.column f.operator)
    | .between, .list [low, high] => .ok (some (.within low high))
    | .between, .list vs => .error (.betweenArity vs.length)
    | .between, .single _ => .error (.betweenArity 1)
    | .between, .absent => .error (.betweenArity 0)
    | op, .single v => .ok (some (.compare op.text v))
    | op, _ => .error (.valueShape f.column op)

/-- The condition that a filter comes to, if it comes to one. -/
def Filter.condition? (f : Filter) : Except BuildError (Option Condition) := do
  return (← f.test?).map (⟨f.column, ·⟩)

/-! ## Terms -/

inductive Connective where
  | and
  | or
  deriving DecidableEq, Repr

namespace Connective

def text : Connective → String
  | and => "AND"
  | or => "OR"

end Connective

/-- The connective before a filter: `OR` before an alternative pattern, `AND`
before all else. -/
def Operator.connective : Operator → Connective
  | .orLike => .or
  | _ => .and

/-- A condition with its connective, or a group of alternatives, which is always
joined by `AND`. -/
inductive Term where
  | condition (connective : Connective) (c : Condition)
  | anyOf (alternatives : List Condition)

namespace Term

/-- How a term is joined to what stands before it. -/
def connective : Term → Connective
  | condition connective _ => connective
  | anyOf _ => .and

/-- The conditions of a term, of which one has to hold. -/
def conditions : Term → List Condition
  | condition _ c => [c]
  | anyOf alternatives => alternatives

def statement : Term → Statement
  | condition connective c => ⟨connective.text ++ " " ++ c.text, c.args⟩
  | anyOf alternatives =>
    ⟨"AND (" ++ " OR ".intercalate (alternatives.map Condition.text) ++ ")",
      alternatives.flatMap Condition.args⟩

/-- Whether a term is true of a row, given which conditions are. -/
def holds (truth : Condition → Bool) (t : Term) : Bool :=
  t.conditions.any truth

end Term

/-! ## Predicates -/

/-- The terms of a predicate, in the order in which they are written. -/
abbrev Predicate := List Term

namespace Predicate

/-- The truth of what has been read so far and of the terms that follow: `OR`
starts a new conjunction, and one true conjunction suffices. -/
def holdsFrom (truth : Condition → Bool) : Bool → Predicate → Bool
  | soFar, [] => soFar
  | soFar, t :: rest =>
    match t.connective with
    | .and => holdsFrom truth (soFar && t.holds truth) rest
    | .or => soFar || holdsFrom truth (t.holds truth) rest

/-- Whether a predicate is true of a row, given which conditions are.  It starts
with `1=1`. -/
def holds (truth : Condition → Bool) (p : Predicate) : Bool :=
  holdsFrom truth true p

/-- A clause that starts with a keyword and `1=1`. -/
def clause (keyword : String) (p : Predicate) : Statement :=
  Statement.concat (.ofText (keyword ++ " 1=1") :: p.map Term.statement)

/-- The condition that a filter comes to, once its column is checked for its
use. -/
def conditionOf (wl : Whitelist) (use : ColumnUse) (f : Filter) :
    Audited BuildError (Option Condition) := do
  wl.checkColumn use f.column
  Audited.ofExcept f.condition?

/-- The term that a criterion comes to.  Its columns are checked in any case;
the members of a group are checked as searched columns. -/
def termOf (wl : Whitelist) : Criterion → Audited BuildError (Option Term)
  | .filter f => do
    return (← conditionOf wl .plain f).map (Term.condition f.operator.connective)
  | .anyOf group => do
    let alternatives := (← group.mapM (conditionOf wl .searched)).filterMap id
    return if alternatives.isEmpty then none else some (.anyOf alternatives)

def ofFilters (wl : Whitelist) (fs : Filters) : Audited BuildError Predicate := do
  return (← fs.criteria.mapM (termOf wl)).filterMap id

end Predicate

/-! ## Clauses -/

/-- The clause `WHERE 1=1 …`. -/
def whereClause (wl : Whitelist) (fs : Filters) :
    Audited BuildError Statement := do
  return (← Predicate.ofFilters wl fs).clause "WHERE"

/-- The clause `HAVING 1=1 …`, which is empty when no filters are given. -/
def havingClause (wl : Whitelist) (fs : Filters) :
    Audited BuildError Statement :=
  if fs.isEmpty then return .empty
  else do
    return (← Predicate.ofFilters wl fs).clause "HAVING"

end GuardedSql
