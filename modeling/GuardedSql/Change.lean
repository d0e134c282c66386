import GuardedSql.Record
import GuardedSql.Statement
import GuardedSql.Whitelist

/-!
# Updates and deletions

Both take their conditions from a record: every column of it has to equal its
value, null and the empty text included.  A column that is not allowed is an
error here and never left out.
-/

namespace GuardedSql

/-- The clause that every column of a record equals its value. -/
def equalityClause (wl : Whitelist) (conditions : Record) :
    Audited BuildError Statement := do
  wl.checkColumns .plain conditions.keys
  return ⟨"WHERE 1=1" ++
      String.join (conditions.keys.map fun c => " AND " ++ c ++ " = ?"),
    conditions.values⟩

/-- The update that sets the columns of one record in the rows that agree with
another one. -/
def update (wl : Whitelist) (table : String) (data conditions : Record) :
    Audited BuildError Statement := do
  wl.checkTable table
  if data.isEmpty then Audited.fail .noUpdatableFields
  else do
    wl.checkColumns .plain data.keys
    let matching ← equalityClause wl conditions
    if conditions.isEmpty then Audited.report (.unconditionalUpdate table)
    let assignments := ", ".intercalate (data.keys.map fun c => c ++ " = ?")
    Statement.built
      (⟨"UPDATE " ++ table ++ " SET " ++ assignments, data.values⟩ ++ matching)

def delete (wl : Whitelist) (table : String) (conditions : Record) :
    Audited BuildError Statement := do
  wl.checkTable table
  if conditions.isEmpty then Audited.fail .missingWhere
  else do
    let matching ← equalityClause wl conditions
    Statement.built (.ofText ("DELETE FROM " ++ table) ++ matching)

end GuardedSql
