import GuardedSql.Record
import GuardedSql.Statement
import GuardedSql.Whitelist

/-!
# Insertions

The first row fixes the columns of an insertion and their order; columns that
are not allowed are left out.  Every other row has to have the same allowed
columns, in any order.
-/

namespace GuardedSql

namespace Insert

/-- The columns of a row that are allowed, in order. -/
def columnsOf (wl : Whitelist) (row : Record) : List String :=
  row.keys.filter wl.hasColumn

/-- Whether the allowed columns of a row are the given ones. -/
def fits (wl : Whitelist) (columns : List String) (row : Record) : Bool :=
  let own := columnsOf wl row
  own.length == columns.length && own.all columns.contains

/-- The values of a row, in the order of the given columns. -/
def valuesOf (columns : List String) (row : Record) : List Value :=
  columns.filterMap row.get?

/-- The assignments that replace the values of a row whose key is taken.  Of the
columns asked for, only those that are inserted are replaced. -/
def replacement (wl : Whitelist) (columns onDuplicate : List String) : String :=
  let replaced := onDuplicate.filter fun c => wl.hasColumn c && columns.contains c
  if replaced.isEmpty then ""
  else
    " ON DUPLICATE KEY UPDATE " ++
      ", ".intercalate (replaced.map fun c => c ++ " = VALUES(" ++ c ++ ")")

/-- The text of an insertion of some number of rows. -/
def text (wl : Whitelist) (table : String) (columns onDuplicate : List String)
    (rows : Nat) : String :=
  "INSERT INTO " ++ table ++ " (" ++ Text.joinNonEmpty ", " columns ++
    ") VALUES " ++ ", ".intercalate
      (List.replicate rows ("(" ++ Text.questionMarks columns.length ++ ")")) ++
    replacement wl columns onDuplicate

end Insert

def insertRows (wl : Whitelist) (table : String) (rows : List Record)
    (onDuplicate : List String) : Audited BuildError Statement := do
  wl.checkTable table
  match rows with
  | [] => Audited.fail .noInsertableColumns
  | first :: _ =>
    let columns := Insert.columnsOf wl first
    if columns.isEmpty then Audited.fail .noInsertableColumns
    else
      match rows.findIdx? fun row => !Insert.fits wl columns row with
      | some row => Audited.fail (.rowSchema row)
      | none =>
        Statement.built
          ⟨Insert.text wl table columns onDuplicate rows.length,
            rows.flatMap (Insert.valuesOf columns)⟩

def insertRow (wl : Whitelist) (table : String) (row : Record)
    (onDuplicate : List String) : Audited BuildError Statement :=
  insertRows wl table [row] onDuplicate

end GuardedSql
