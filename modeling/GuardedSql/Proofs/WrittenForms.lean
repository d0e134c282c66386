import GuardedSql.Proofs.Acceptance
import GuardedSql.Proofs.Precedence
import GuardedSql.Proofs.SharedCore

/-!
# How filters and queries are written

Every accepted list of filters is written in one way, which is described here
without the whitelist and without the steps that lead to it.  After the keyword
and `1=1` stands each criterion that is not skipped, in order: a word that joins
it to what stands before, and its expression.  What is written for a query
depends on the whitelist in one place only: the order is left out if its column
is not listed.
-/

namespace GuardedSql

/-! ## Expressions -/

/-- The expression of a filter and the values that it binds.  A value that does
not fit its operator has none. -/
def Filter.written (f : Filter) : Statement :=
  match f.operator, f.operand with
  | .equal, .single v => ⟨f.column ++ " = ?", [v]⟩
  | .atLeast, .single v => ⟨f.column ++ " >= ?", [v]⟩
  | .atMost, .single v => ⟨f.column ++ " <= ?", [v]⟩
  | .greater, .single v => ⟨f.column ++ " > ?", [v]⟩
  | .less, .single v => ⟨f.column ++ " < ?", [v]⟩
  | .like, .single v | .orLike, .single v =>
    ⟨f.column ++ " LIKE ?", [.text ("%" ++ v.text?.getD "" ++ "%")]⟩
  | .inList, .list vs =>
    ⟨f.column ++ " IN (" ++ ", ".intercalate (vs.map fun _ => "?") ++ ")", vs⟩
  | .between, .list [low, high] =>
    ⟨f.column ++ " BETWEEN ? AND ?", [low, high]⟩
  | _, _ => .empty

/-- The expression of a criterion and the values that it binds.  A group is
written without its skipped members. -/
def Criterion.written : Criterion → Statement
  | .filter f => f.written
  | .anyOf group =>
    let members := (group.filter fun f => !f.isSkipped).map Filter.written
    ⟨"(" ++ " OR ".intercalate (members.map Statement.sql) ++ ")",
      members.flatMap Statement.args⟩

/-- The word between a criterion and what stands before it. -/
def Criterion.joiningWord : Criterion → String
  | .filter f => if f.operator = .orLike then "OR" else "AND"
  | .anyOf _ => "AND"

/-- A keyword with `1=1` and all criteria that are not skipped. -/
def Filters.written (keyword : String) (fs : Filters) : Statement :=
  ⟨keyword ++ " 1=1" ++ String.join (fs.rendered.map fun c =>
      " " ++ c.joiningWord ++ " " ++ c.written.sql),
    fs.rendered.flatMap fun c => c.written.args⟩

theorem Filter.Yields.written_eq {f : Filter} {c : Condition}
    (h : f.Yields c) : f.written = ⟨c.text, c.args⟩ := by
  cases h with
  | compare hoperator =>
      simp only [Operator.comparisons, List.mem_cons, List.not_mem_nil,
        or_false] at hoperator
      rcases hoperator with rfl | rfl | rfl | rfl | rfl <;>
        simp [written, Condition.text, Condition.args, Operator.text,
          String.append_assoc]
  | like hoperator =>
      rcases hoperator with rfl | rfl <;> rfl
  | oneOf =>
      simp only [written, Condition.text, Condition.args, Text.questionMarks,
        List.map_const']
  | within => rfl

theorem Filter.Yields.map_written_eq {fs : List Filter} {cs : List Condition}
    (h : List.Forall₂ Yields fs cs) :
    fs.map written = cs.map fun c => ⟨c.text, c.args⟩ := by
  induction h with
  | nil => rfl
  | cons hfc _ ih => rw [List.map_cons, List.map_cons, hfc.written_eq, ih]

theorem Criterion.Yields.statement_eq {c : Criterion} {t : Term}
    (h : c.Yields t) :
    t.statement = ⟨c.joiningWord ++ " " ++ c.written.sql, c.written.args⟩ := by
  cases h with
  | @filter f condition hcondition =>
      have hword : f.operator.connective.text = joiningWord (.filter f) := by
        simp only [joiningWord, ← Operator.connective_eq_or_iff]
        cases f.operator.connective with
        | _ => rfl
      rw [Term.statement, hword, written, hcondition.written_eq]
  | anyOf hmembers =>
      have hwritten := Filter.Yields.map_written_eq hmembers
      simp only [Term.statement, joiningWord, written, hwritten, List.map_map,
        List.flatMap_map, ← String.append_assoc]
      rfl

/-! ## Clauses -/

/-- Clauses that are not empty are written one after the other, with a space
before each of them. -/
theorem Statement.sql_append_concat_of_ne_empty {a : Statement}
    (ha : a.sql ≠ "") {clauses : List Statement}
    (hclauses : ∀ clause ∈ clauses, clause.sql ≠ "") :
    (a ++ concat clauses).sql =
      a.sql ++ String.join (clauses.map fun clause => " " ++ clause.sql) := by
  induction clauses generalizing a with
  | nil => simp [concat_nil]
  | cons clause rest ih =>
      obtain ⟨hclause, hrest⟩ := List.forall_mem_cons.mp hclauses
      have hspaced : (a ++ clause).sql = a.sql ++ " " ++ clause.sql :=
        spaced_of_ne_empty ha hclause
      have hnext : (a ++ clause).sql ≠ "" := by simp [hspaced, ha]
      rw [concat_cons, ← append_assoc, ih hnext hrest, hspaced, List.map_cons,
        String.join_cons]
      simp only [String.append_assoc]

theorem Predicate.clause_eq_written {fs : Filters} {p : Predicate}
    (h : List.Forall₂ Criterion.Yields fs.rendered p) (keyword : String) :
    p.clause keyword = fs.written keyword := by
  have hstatements : p.map Term.statement = fs.rendered.map fun c =>
      ⟨c.joiningWord ++ " " ++ c.written.sql, c.written.args⟩ := by
    generalize fs.rendered = criteria at h
    induction h with
    | nil => rfl
    | cons hct _ ih => rw [List.map_cons, List.map_cons, hct.statement_eq, ih]
  have hstart : (Statement.ofText (keyword ++ " 1=1")).sql ≠ "" := by
    simp [Statement.ofText]
  rw [clause, Statement.concat_cons, hstatements]
  apply Statement.ext
  · rw [Statement.sql_append_concat_of_ne_empty hstart]
    · simp only [List.map_map, Filters.written, Statement.ofText,
        String.append_assoc]
      rfl
    · intro s hs
      obtain ⟨c, -, rfl⟩ := List.mem_map.mp hs
      simp
  · rw [Statement.args_append, Statement.args_concat, List.flatMap_map]
    rfl

theorem whereClause_eq_written {wl : Whitelist} {fs : Filters} {s : Statement}
    (h : (whereClause wl fs).outcome = .ok s) : s = fs.written "WHERE" := by
  obtain ⟨p, hp, rfl⟩ := whereClause_eq_ok h
  have hyields := Predicate.forall₂_yields_of_ofFilters hp
  exact Predicate.clause_eq_written hyields "WHERE"

theorem havingClause_eq_written {wl : Whitelist} {fs : Filters} {s : Statement}
    (h : (havingClause wl fs).outcome = .ok s) :
    s = if fs.criteria = [] then .empty else fs.written "HAVING" := by
  by_cases hempty : fs.criteria = []
  · rw [havingClause_of_criteria_eq_nil hempty] at h
    rw [if_pos hempty, ← Except.ok.inj h]
  · rcases havingClause_eq_ok h with ⟨hnil, -⟩ | ⟨p, hp, rfl⟩
    · exact absurd hnil hempty
    · have hyields := Predicate.forall₂_yields_of_ofFilters hp
      rw [if_neg hempty]
      exact Predicate.clause_eq_written hyields "HAVING"

/-- The conditions on rows are accepted exactly when all criteria are, and then
they are written in the one way that is described.  So are the conditions on
groups unless there are none; they are refused with the same errors. -/
theorem conditions_written_in_order (wl : Whitelist) (fs : Filters) :
    (∀ s, (whereClause wl fs).outcome = .ok s ↔
      (∀ c ∈ fs.criteria, c.Acceptable wl) ∧ s = fs.written "WHERE") ∧
    (fs.criteria ≠ [] →
      (∀ s, (havingClause wl fs).outcome = .ok s ↔
        (∀ c ∈ fs.criteria, c.Acceptable wl) ∧ s = fs.written "HAVING") ∧
      ∀ e, (havingClause wl fs).outcome = .error e ↔
        (whereClause wl fs).outcome = .error e) := by
  have hwhere := decidedBy_whereClause wl fs
  have hhaving := decidedBy_havingClause wl fs
  rw [Filters.forall_acceptable_iff]
  refine ⟨fun s => hwhere.eq_ok_iff fun _ => whereClause_eq_written, ?_⟩
  intro hsome
  refine ⟨fun s => hhaving.eq_ok_iff ?_, fun e => ?_⟩
  · intro s' hs'
    rw [havingClause_eq_written hs', if_neg hsome]
  · rw [hwhere.eq_error_iff, hhaving.eq_error_iff]

/-- All operators, with skipped filters and groups between them. -/
theorem conditions_written_in_order_mixed :
    let wl := Whitelist.ofLists [] ["id", "age", "users.name AS name", "note"]
    let comparisons : List Filter :=
      [⟨"id", .equal, .single .null⟩, ⟨"note", .orLike, .single (.int 7)⟩,
        ⟨"id", .equal, .single (.int 1)⟩, ⟨"id", .atLeast, .single (.int 2)⟩,
        ⟨"age", .atMost, .single (.int 3)⟩, ⟨"id", .greater, .single (.int 4)⟩,
        ⟨"age", .less, .single (.int 5)⟩, ⟨"note", .like, .single (.bool true)⟩]
    let group : List Filter :=
      [⟨"users.name", .like, .single (.text "ann")⟩, ⟨"note", .like, .absent⟩,
        ⟨"age", .inList, .list [.int 6, .int 7]⟩,
        ⟨"id", .atMost, .single (.int 8)⟩]
    let fs := ((((Filters.ofList comparisons).inList "id"
      (.list [.int 3, .int 4, .int 5])).between "age" (.int 18) (.int 65)).anyOf
      group).anyOf
      [⟨"id", .equal, .single (.text "")⟩, ⟨"id", .inList, .list []⟩]
    let conditions := " 1=1 OR note LIKE ? AND id = ? AND id >= ?" ++
      " AND age <= ? AND id > ? AND age < ? AND note LIKE ?" ++
      " AND id IN (?, ?, ?) AND age BETWEEN ? AND ?" ++
      " AND (users.name LIKE ? OR age IN (?, ?) OR id <= ?)"
    let args : List Value :=
      [.text "%7%", .int 1, .int 2, .int 3, .int 4, .int 5, .text "%true%",
        .int 3, .int 4, .int 5, .int 18, .int 65, .text "%ann%", .int 6,
        .int 7, .int 8]
    fs.criteria ≠ [] ∧
      (whereClause wl fs).outcome = .ok ⟨"WHERE" ++ conditions, args⟩ ∧
      (havingClause wl fs).outcome = .ok ⟨"HAVING" ++ conditions, args⟩ := by
  intro wl comparisons group fs conditions args
  have hsome : fs.criteria ≠ [] := List.cons_ne_nil _ _
  have haccepted : ∃ s, (whereClause wl fs).outcome = .ok s := ⟨_, rfl⟩
  obtain ⟨s, hs⟩ := haccepted
  obtain ⟨hwhere, hhaving⟩ := conditions_written_in_order wl fs
  have hacceptable := ((hwhere s).mp hs).1
  refine ⟨hsome, ?_, ?_⟩
  · exact (hwhere _).mpr ⟨hacceptable, rfl⟩
  · exact ((hhaving hsome).1 _).mpr ⟨hacceptable, rfl⟩

/-! ## Queries -/

namespace Select

/-- The clauses that an accepted query is written with. -/
def written (wl : Whitelist) (q : Select) : Clauses where
  columns := if q.columns.isEmpty then "*" else ", ".intercalate q.columns
  base := Statement.concat [.ofText ("FROM " ++ q.table),
    .ofText (" ".intercalate (q.joins.map Join.text)), q.filters.written "WHERE"]
  groupBy :=
    if q.groupBy.isEmpty then ""
    else "GROUP BY " ++ Text.joinNonEmpty ", " q.groupBy
  having :=
    if q.having.criteria = [] then .empty else q.having.written "HAVING"
  orderBy := orderText wl q.orderBy
  window := ⟨"LIMIT ? OFFSET ?", [.uint q.limit, .uint q.offset]⟩

variable {wl : Whitelist} {q : Select} {c : Clauses} {s : Statements}

theorem clauses_eq_written (h : (q.clauses wl).outcome = .ok c) :
    c = q.written wl := by
  obtain ⟨conditions, having, hconditions, hhaving, rfl⟩ := clauses_eq_ok h
  rw [whereClause_eq_written hconditions, havingClause_eq_written hhaving,
    written]

theorem outcome_clauses_eq_ok_iff :
    (q.clauses wl).outcome = .ok c ↔ q.Acceptable wl ∧ c = q.written wl := by
  rw [acceptable_iff]
  exact (q.decidedBy_clauses wl).eq_ok_iff fun _ => clauses_eq_written

/-- A query is built exactly when it is acceptable, and then both statements
are those of the clauses that it is written with. -/
theorem outcome_build_eq_ok_iff :
    (q.build wl).outcome = .ok s ↔
      q.Acceptable wl ∧ s = ⟨(q.written wl).data, (q.written wl).count⟩ := by
  rw [acceptable_iff]
  refine (q.decidedBy_build wl).eq_ok_iff ?_
  intro s' hs'
  obtain ⟨c, hc, rfl⟩ := build_eq_ok hs'
  rw [clauses_eq_written hc]

end Select

end GuardedSql
