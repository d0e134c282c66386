import GuardedSql.Whitelist

/-!
# Joins

Tables that a query joins to its first one, and the clause that names them.
-/

namespace GuardedSql

inductive Join.Kind where
  | left
  | inner
  | right
  | full
  deriving DecidableEq, Repr, Inhabited

namespace Join.Kind

def text : Join.Kind → String
  | left => "LEFT"
  | inner => "INNER"
  | right => "RIGHT"
  | full => "FULL"

end Join.Kind

/-- What joined rows have to satisfy.  A raw text is written as it is and
checked by nobody, so it must come from the program and not from its users; two
columns are checked and compared for equality. -/
inductive Join.Condition where
  | raw (text : String)
  | columns (left right : String)
  deriving DecidableEq, Repr

structure Join where
  table : String
  on : Join.Condition
  kind : Join.Kind := .left
  deriving DecidableEq, Repr

namespace Join

/-- Refuses columns that are not allowed.  A raw text has none. -/
def checkCondition (wl : Whitelist) : Join.Condition → Audited BuildError Unit
  | .raw _ => pure ()
  | .columns left right => wl.checkColumns .plain [left, right]

def check (wl : Whitelist) (j : Join) : Audited BuildError Unit := do
  wl.checkTable j.table
  checkCondition wl j.on

def conditionText : Join.Condition → String
  | .raw text => text
  | .columns left right => left ++ " = " ++ right

def text (j : Join) : String :=
  j.kind.text ++ " JOIN " ++ j.table ++ " ON " ++ conditionText j.on

end Join

/-- The joins of a query, one after the other.  They have no arguments. -/
def joinClause (wl : Whitelist) (joins : List Join) :
    Audited BuildError String := do
  joins.forM (Join.check wl)
  return " ".intercalate (joins.map Join.text)

end GuardedSql
