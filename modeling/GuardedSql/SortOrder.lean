import GuardedSql.Whitelist

/-!
# Orders

An order is a wish of whoever asks for the rows: a column that is not allowed is
no error, the rows come unordered then.
-/

namespace GuardedSql

inductive Direction where
  | ascending
  | descending
  deriving DecidableEq, Repr, Inhabited

namespace Direction

def text : Direction → String
  | ascending => "ASC"
  | descending => "DESC"

/-- The direction whose keyword a text is, up to the case of ASCII letters and
surrounding white space. -/
def parse? (s : String) : Option Direction :=
  let word := Text.trim s.toList
  if Text.equalIgnoringCase word "asc".toList then some ascending
  else if Text.equalIgnoringCase word "desc".toList then some descending
  else none

/-- The words that are read are those that are written, in small letters. -/
theorem parse?_eq_some_iff {s : String} {direction : Direction} :
    parse? s = some direction ↔
      Text.upper (Text.trim s.toList) = Text.upper direction.text.toList := by
  have hasc : Text.upper "asc".toList = Text.upper ascending.text.toList := by
    decide
  have hdesc : Text.upper "desc".toList = Text.upper descending.text.toList := by
    decide
  have hne : Text.upper ascending.text.toList ≠
      Text.upper descending.text.toList := by
    decide
  simp only [parse?, Text.equalIgnoringCase_iff, hasc, hdesc]
  cases direction <;> grind

/-- The direction whose keyword a text is, or the error that names the text. -/
def ofText (s : String) : Except BuildError Direction :=
  match parse? s with
  | some direction => .ok direction
  | none => .error (.unknownDirection s)

end Direction

structure SortOrder where
  column : String
  direction : Direction := .ascending
  deriving DecidableEq, Repr

/-- The clause of an order.  It is empty when there is no order or its column is
not allowed. -/
def orderClause {ε : Type} (wl : Whitelist) :
    Option SortOrder → Audited ε String
  | none => return ""
  | some order =>
    if wl.hasColumn order.column then
      return "ORDER BY " ++ order.column ++ " " ++ order.direction.text
    else do
      Audited.report (.orderOmitted order.column)
      return ""

end GuardedSql
