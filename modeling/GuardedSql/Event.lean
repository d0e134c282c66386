/-!
# Events

What the library reports about its work: the names that a whitelist refuses, the
statements that are built and run, and the pages that are read.
-/

namespace GuardedSql

inductive Level where
  | trace
  | debug
  | warning
  deriving DecidableEq, Repr

inductive Topic where
  | whitelist
  | sql
  | paging
  deriving DecidableEq, Repr

/-- The use of a column that a whitelist is asked about. -/
inductive ColumnUse where
  /-- The column stands for itself, as in conditions, groupings and assignments.
  -/
  | plain
  /-- The column is an item of a select list. -/
  | selected
  /-- The column is a member of a group of alternatives. -/
  | searched
  deriving DecidableEq, Repr

inductive Event where
  | tableRejected (table : String)
  | columnRejected (use : ColumnUse) (column : String)
  | orderOmitted (column : String)
  | unconditionalUpdate (table : String)
  | statementBuilt (sql : String) (arguments : Nat)
  | executing (sql : String) (arguments : Nat)
  | pageFetched (table : String) (draw total filtered : UInt64) (rows : Nat)
  deriving DecidableEq, Repr

namespace Event

def level : Event → Level
  | statementBuilt .. => .trace
  | unconditionalUpdate .. => .warning
  | _ => .debug

def topic : Event → Topic
  | statementBuilt .. | unconditionalUpdate .. => .sql
  | executing .. | pageFetched .. => .paging
  | _ => .whitelist

def message : Event → String
  | tableRejected .. => "rejected table"
  | columnRejected .plain _ => "rejected column"
  | columnRejected .selected _ => "rejected select column"
  | columnRejected .searched _ => "rejected search column"
  | orderOmitted .. => "order column not allowed, ORDER BY omitted"
  | unconditionalUpdate .. => "UPDATE without WHERE conditions"
  | statementBuilt .. => "statement built"
  | executing .. => "executing"
  | pageFetched .. => "datatable page fetched"

/-- The details of an event, as texts under their names. -/
def fields : Event → List (String × String)
  | tableRejected table => [("table", table)]
  | columnRejected _ column => [("column", column)]
  | orderOmitted column => [("column", column)]
  | unconditionalUpdate table => [("table", table)]
  | statementBuilt sql arguments =>
    [("sql", sql), ("param_count", arguments.repr)]
  | executing sql arguments => [("sql", sql), ("param_count", arguments.repr)]
  | pageFetched table draw total filtered rows =>
    [("table", table), ("draw", draw.toNat.repr),
      ("records_total", total.toNat.repr),
      ("records_filtered", filtered.toNat.repr), ("rows", rows.repr)]

end Event

end GuardedSql
