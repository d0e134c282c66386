/-!
# Joining texts

Lists of names, conditions and placeholders are written with a separator between
neighbours.  Where names may be empty, `joinNonEmpty` leaves the empty ones out
together with their separators.
-/

namespace GuardedSql.Text

/-- The items of a list that are not empty, with a separator between each two
neighbours. -/
def joinNonEmpty (sep : String) (items : List String) : String :=
  sep.intercalate (items.filter fun item => !item.isEmpty)

/-- As many question marks as asked for, separated by commas. -/
def questionMarks (n : Nat) : String :=
  ", ".intercalate (List.replicate n "?")

end GuardedSql.Text
