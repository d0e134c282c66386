import GuardedSql.Proofs.Concatenation

/-!
# Additions to a statement

Each addition to a statement looks at whether something stands before it and
whether it has a text itself.  All the same, the result depends on nothing but
the texts that are not empty and the arguments, in their order.  So it does not
matter how additions are grouped into clauses.
-/

namespace GuardedSql

namespace Statement

/-! ## One addition -/

/-- What is added to a statement at its end. -/
inductive Addition where
  | part (sql : String) (args : List Value)
  | text (sql : String)
  | clause (s : Statement)

namespace Addition

def apply (s : Statement) : Addition → Statement
  | part sql args => s ++ ⟨sql, args⟩
  | text sql => s ++ ofText sql
  | clause other => s ++ other

def sql : Addition → String
  | part sql _ => sql
  | text sql => sql
  | clause s => s.sql

def args : Addition → List Value
  | part _ args => args
  | text _ => []
  | clause s => s.args

/-- What an addition contributes, whatever stands before it. -/
def contribution (a : Addition) : Statement :=
  ⟨a.sql, a.args⟩

theorem apply_eq_append (s : Statement) (a : Addition) :
    a.apply s = s ++ a.contribution := by
  match a with
  | part _ _ | text _ | clause _ => rfl

end Addition

/-! ## All additions -/

/-- The statement that additions make, starting from nothing. -/
def write (additions : List Addition) : Statement :=
  additions.foldl Addition.apply empty

theorem foldl_apply (s : Statement) (additions : List Addition) :
    additions.foldl Addition.apply s =
      s ++ concat (additions.map Addition.contribution) := by
  rw [← foldl_append, List.foldl_map]
  simp only [← Addition.apply_eq_append]

theorem write_eq_concat (additions : List Addition) :
    write additions = concat (additions.map Addition.contribution) := by
  rw [write, foldl_apply, empty_append]

theorem sql_write (additions : List Addition) :
    (write additions).sql =
      Text.joinNonEmpty " " (additions.map Addition.sql) := by
  rw [write_eq_concat, sql_concat, List.map_map]
  rfl

theorem args_write (additions : List Addition) :
    (write additions).args = additions.flatMap Addition.args := by
  rw [write_eq_concat, args_concat, List.flatMap_map]
  rfl

/-! ## Clauses among the additions -/

theorem write_append (first second : List Addition) :
    write (first ++ second) = write first ++ write second := by
  rw [write_eq_concat, write_eq_concat, write_eq_concat, List.map_append,
    concat_append]

theorem write_clauses (clauses : List Statement) :
    write (clauses.map .clause) = concat clauses := by
  rw [write, List.foldl_map]
  rfl

theorem write_flatten (groups : List (List Addition)) :
    write groups.flatten = concat (groups.map write) := by
  induction groups with
  | nil => rfl
  | cons group rest ih =>
      rw [List.flatten_cons, write_append, ih, List.map_cons, concat_cons]

end Statement

open Statement (write concat Addition)

/-- The text that additions write consists of their texts in order, without the
empty ones and with one space between neighbours, and the arguments are theirs
in order.  Adding the clause that some additions write is making these
additions, and so is adding several clauses in this way.  The clauses that are
put together by concatenation are such additions too. -/
theorem additions_concatenate :
    (∀ additions,
      (write additions).sql = " ".intercalate
        ((additions.map Addition.sql).filter fun sql => !sql.isEmpty) ∧
      (write additions).args = additions.flatMap Addition.args) ∧
    (∀ first second,
      (Addition.clause (write second)).apply (write first) =
        write (first ++ second)) ∧
    (∀ groups : List (List Addition),
      write (groups.map fun group => .clause (write group)) =
        write groups.flatten) ∧
    ∀ clauses, concat clauses = write (clauses.map .clause) := by
  refine ⟨?_, ?_, ?_, fun clauses => (Statement.write_clauses clauses).symm⟩
  · intro additions
    exact ⟨Statement.sql_write additions, Statement.args_write additions⟩
  · intro first second
    exact (Statement.write_append first second).symm
  · intro groups
    have hclauses := Statement.write_clauses (groups.map write)
    rw [List.map_map] at hclauses
    rw [Statement.write_flatten, ← hclauses]
    rfl

example :
    write [.text "", .part "a = ?" [.int 1], .clause (write [.text ""]),
      .clause (write [.text "AND", .part "" [.int 2], .text "b"])] =
    ⟨"a = ? AND b", [.int 1, .int 2]⟩ := rfl

end GuardedSql
