import GuardedSql.Operator

/-!
# Errors of statement building

A statement is either built in full or refused with the first fault that is
found in the caller's input.
-/

namespace GuardedSql

inductive BuildError where
  | tableNotAllowed (table : String)
  /-- A column is not on the whitelist, or not for the use that is made of it.
  -/
  | columnNotAllowed (column : String)
  /-- No row is given, or no column of the first row is on the whitelist. -/
  | noInsertableColumns
  | noUpdatableFields
  /-- A range has a number of bounds other than two. -/
  | betweenArity (bounds : Nat)
  | unknownOperator (text : String)
  | missingWhere
  /-- A row sets other columns than the first one.  Rows are counted from zero.
  -/
  | rowSchema (row : Nat)
  | unknownDirection (text : String)
  /-- An operator is given a list where it takes a single value, or the other
  way round. -/
  | valueShape (column : String) (operator : Operator)
  deriving DecidableEq, Repr

namespace BuildError

def quoted (s : String) : String :=
  "`" ++ s ++ "`"

def message : BuildError → String
  | tableNotAllowed table =>
    "builder table " ++ quoted table ++ " is not in the allowed tables"
  | columnNotAllowed column =>
    "builder column " ++ quoted column ++ " is not in the allowed columns"
  | noInsertableColumns =>
    "builder no insertable columns left after whitelist filtering"
  | noUpdatableFields => "builder no fields to update"
  | betweenArity bounds =>
    "builder BETWEEN expects exactly 2 values, got " ++ bounds.repr
  | unknownOperator text => "builder unsupported operator " ++ quoted text
  | missingWhere => "builder refusing to build DELETE without WHERE conditions"
  | rowSchema row =>
    "builder row " ++ row.repr ++ " has a different column set than the first row"
  | unknownDirection text => "builder unsupported sort direction " ++ quoted text
  | valueShape column operator =>
    "builder value shape does not fit operator " ++ operator.text ++
      " on column " ++ quoted column

end BuildError

end GuardedSql
