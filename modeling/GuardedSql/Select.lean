import GuardedSql.Join
import GuardedSql.Predicate
import GuardedSql.SortOrder

/-!
# Selections

A query yields two statements: one for the rows of a page, and one for the
number of all rows that the pages are cut from.  Groups are counted, not the
rows in them, so a query with groups is counted through a subquery.
-/

namespace GuardedSql

/-! ## Lists of columns -/

/-- The columns of a select list.  No columns stand for all. -/
def columnList (wl : Whitelist) (columns : List String) :
    Audited BuildError String :=
  if columns.isEmpty then return "*"
  else do
    wl.checkColumns .selected columns
    return ", ".intercalate columns

/-- The clause of a grouping, which is empty when there are no columns to group
by. -/
def groupClause (wl : Whitelist) (columns : List String) :
    Audited BuildError String :=
  if columns.isEmpty then return ""
  else do
    wl.checkColumns .plain columns
    return "GROUP BY " ++ Text.joinNonEmpty ", " columns

/-! ## Queries -/

def defaultPageSize : UInt64 := 10

/-- A query of one table and the tables joined to it. -/
structure Select where
  table : String
  columns : List String := []
  filters : Filters := .empty
  joins : List Join := []
  groupBy : List String := []
  having : Filters := .empty
  orderBy : Option SortOrder := none
  limit : UInt64 := defaultPageSize
  offset : UInt64 := 0

structure Select.Statements where
  data : Statement
  count : Statement

namespace Select

def maxOffset : Nat :=
  UInt64.size - 1

/-- The rows of one page, the pages being counted from one.  Page zero is the
first page too, and an offset that exceeds the greatest row number is replaced
by it. -/
def page (q : Select) (page perPage : UInt64) : Select :=
  { q with
    offset := UInt64.ofNat (min ((max page.toNat 1 - 1) * perPage.toNat) maxOffset)
    limit := perPage }

structure Clauses where
  columns : String
  base : Statement
  groupBy : String
  having : Statement
  orderBy : String
  window : Statement

namespace Clauses

/-- The statement for the rows of a page. -/
def data (c : Clauses) : Statement :=
  Statement.concat
    [.ofText ("SELECT " ++ c.columns), c.base, .ofText c.groupBy, c.having,
      .ofText c.orderBy, c.window]

/-- The statement for the number of all rows. -/
def count (c : Clauses) : Statement :=
  if c.groupBy.isEmpty && c.having.sql.isEmpty then
    Statement.concat [.ofText "SELECT COUNT(1) AS total", c.base]
  else
    let groups := Statement.concat
      [.ofText "SELECT 1", c.base, .ofText c.groupBy, c.having]
    ⟨"SELECT COUNT(*) AS total FROM (" ++ groups.sql ++ ") AS sub", groups.args⟩

end Clauses

/-- The parts of the statements of a query, each of them checked in turn. -/
def clauses (wl : Whitelist) (q : Select) : Audited BuildError Clauses := do
  wl.checkTable q.table
  let joins ← joinClause wl q.joins
  let columns ← columnList wl q.columns
  let conditions ← whereClause wl q.filters
  let groupBy ← groupClause wl q.groupBy
  let having ← havingClause wl q.having
  let orderBy ← orderClause wl q.orderBy
  return {
    columns
    base := Statement.concat
      [.ofText ("FROM " ++ q.table), .ofText joins, conditions]
    groupBy
    having
    orderBy
    window := ⟨"LIMIT ? OFFSET ?", [.uint q.limit, .uint q.offset]⟩ }

def build (wl : Whitelist) (q : Select) :
    Audited BuildError Select.Statements := do
  let clauses ← q.clauses wl
  let data ← clauses.data.built
  let count ← clauses.count.built
  return ⟨data, count⟩

end Select

end GuardedSql
