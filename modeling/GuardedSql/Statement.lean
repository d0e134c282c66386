import GuardedSql.Audited
import GuardedSql.Text.Join
import GuardedSql.Value

/-!
# Statements

A statement is a text with question marks in it and the arguments that are bound
to them, in order.  Clauses are statements too: text and arguments are never
extended one without the other.
-/

namespace GuardedSql

/-- A text and the arguments bound to its question marks. -/
@[ext]
structure Statement where
  sql : String
  args : List Value
  deriving Inhabited

namespace Statement

def empty : Statement :=
  ⟨"", []⟩

def ofText (sql : String) : Statement :=
  ⟨sql, []⟩

/-- Two texts with a space between them, unless one of them is empty. -/
def spaced (a b : String) : String :=
  if b.isEmpty then a else if a.isEmpty then b else a ++ " " ++ b

/-- A clause after another one. -/
instance : Append Statement :=
  ⟨fun a b => ⟨spaced a.sql b.sql, a.args ++ b.args⟩⟩

/-- The clauses of a list, one after the other. -/
def concat (clauses : List Statement) : Statement :=
  clauses.foldl (· ++ ·) empty

/-- The number of question marks in the text. -/
def placeholders (s : Statement) : Nat :=
  s.sql.toList.count '?'

/-- Reports that a statement is complete. -/
def built (s : Statement) {ε : Type} : Audited ε Statement := do
  Audited.report (.statementBuilt s.sql s.args.length)
  return s

instance : ToString Statement :=
  ⟨sql⟩

/-! ## Clauses form a monoid -/

@[simp]
theorem sql_append (a b : Statement) : (a ++ b).sql = spaced a.sql b.sql := rfl

@[simp]
theorem args_append (a b : Statement) : (a ++ b).args = a.args ++ b.args := rfl

@[simp]
theorem spaced_empty (a : String) : spaced a "" = a := rfl

@[simp]
theorem empty_spaced (a : String) : spaced "" a = a := by
  by_cases h : a.isEmpty
  · simp_all [spaced]
  · simp_all [spaced]

theorem spaced_assoc (a b c : String) :
    spaced (spaced a b) c = spaced a (spaced b c) := by
  unfold spaced
  by_cases ha : a.isEmpty <;> by_cases hb : b.isEmpty <;>
    by_cases hc : c.isEmpty <;> simp_all [String.append_assoc]

@[simp]
theorem append_empty (a : Statement) : a ++ empty = a :=
  Statement.ext rfl (List.append_nil _)

@[simp]
theorem empty_append (a : Statement) : empty ++ a = a :=
  Statement.ext (empty_spaced a.sql) rfl

theorem append_assoc (a b c : Statement) : a ++ b ++ c = a ++ (b ++ c) :=
  Statement.ext (spaced_assoc ..) (List.append_assoc ..)

theorem foldl_append (a : Statement) (clauses : List Statement) :
    clauses.foldl (· ++ ·) a = a ++ concat clauses := by
  induction clauses generalizing a with
  | nil => exact (append_empty a).symm
  | cons b rest ih =>
    show List.foldl (· ++ ·) (a ++ b) rest =
      a ++ List.foldl (· ++ ·) (empty ++ b) rest
    rw [ih (a ++ b), ih (empty ++ b), empty_append, append_assoc]

theorem concat_cons (a : Statement) (clauses : List Statement) :
    concat (a :: clauses) = a ++ concat clauses := by
  show List.foldl (· ++ ·) (empty ++ a) clauses = _
  rw [foldl_append, empty_append]

end Statement

end GuardedSql
