import GuardedSql.Proofs.Concatenation
import GuardedSql.Proofs.Results

/-!
# What both statements of a query range over

The statement for the rows of a page and the one for the number of all rows
contain the same text, from `FROM` to the last condition on groups.  Around it
stand a select list, an order and a window in the one, and a count in the
other.  So the pages of a query are cut from as many rows as are counted.
-/

namespace GuardedSql

/-! ## Empty clauses -/

theorem groupClause_eq_empty_iff {wl : Whitelist} {columns : List String}
    {sql : String} (h : (groupClause wl columns).outcome = .ok sql) :
    sql = "" ↔ columns = [] := by
  rw [← groupClause_eq_ok h]
  cases columns with
  | nil => simp
  | cons column rest => simp

theorem Predicate.sql_clause_ne_empty (keyword : String) (p : Predicate) :
    (p.clause keyword).sql ≠ "" := by
  intro h
  have hempty : ∀ item ∈ (Statement.ofText (keyword ++ " 1=1") ::
      p.map Term.statement).map Statement.sql, item = "" :=
    Text.joinNonEmpty_eq_empty_iff.mp ((Statement.sql_concat _).symm.trans h)
  have hstart := hempty (keyword ++ " 1=1") List.mem_cons_self
  simp at hstart

theorem havingClause_of_criteria_eq_nil {wl : Whitelist} {fs : Filters}
    (h : fs.criteria = []) : (havingClause wl fs).outcome = .ok .empty := by
  have hempty : fs.isEmpty = true := by
    rw [Filters.isEmpty, h, List.isEmpty_nil]
  rw [havingClause, if_pos hempty]
  rfl

/-- The conditions on groups are left out exactly when no filters are given. -/
theorem havingClause_eq_empty_iff {wl : Whitelist} {fs : Filters}
    {s : Statement} (h : (havingClause wl fs).outcome = .ok s) :
    s.sql = "" ↔ fs.criteria = [] := by
  constructor
  · intro hsql
    rcases havingClause_eq_ok h with ⟨hempty, -⟩ | ⟨p, -, rfl⟩
    · exact hempty
    · exact absurd hsql (p.sql_clause_ne_empty "HAVING")
  · intro hcriteria
    rw [havingClause_of_criteria_eq_nil hcriteria] at h
    rw [← Except.ok.inj h]
    rfl

/-! ## The core of a query -/

namespace Select

namespace Clauses

/-- What both statements of a query range over. -/
def core (c : Clauses) : Statement :=
  c.base ++ (.ofText c.groupBy ++ c.having)

theorem data_eq (c : Clauses) :
    c.data = .ofText ("SELECT " ++ c.columns) ++
      (c.core ++ (.ofText c.orderBy ++ c.window)) := by
  simp only [data, core, Statement.concat_cons, Statement.concat_nil,
    Statement.append_empty, Statement.append_assoc]

/-- Without groups the core is what stands before them, and it is counted
as it is. -/
theorem count_eq_of_empty {c : Clauses} (hgroupBy : c.groupBy = "")
    (hhaving : c.having = .empty) :
    c.count = .ofText "SELECT COUNT(1) AS total" ++ c.core := by
  have hcore : c.core = c.base := by
    rw [core, hgroupBy, hhaving, Statement.append_empty]
    exact Statement.append_empty c.base
  have hplain : (c.groupBy.isEmpty && c.having.sql.isEmpty) = true := by
    rw [hgroupBy, hhaving]
    rfl
  rw [count, if_pos hplain, hcore, Statement.concat_cons,
    Statement.concat_cons, Statement.concat_nil, Statement.append_empty]

theorem count_eq_of_ne_empty {c : Clauses}
    (h : ¬(c.groupBy = "" ∧ c.having.sql = "")) :
    c.count = ⟨"SELECT COUNT(*) AS total FROM (" ++
        (Statement.ofText "SELECT 1" ++ c.core).sql ++ ") AS sub",
      c.core.args⟩ := by
  have hgrouped : ¬(c.groupBy.isEmpty && c.having.sql.isEmpty) = true := by
    simpa using h
  rw [count, if_neg hgrouped]
  simp only [core, Statement.concat_cons, Statement.concat_nil,
    Statement.append_empty]
  rfl

end Clauses

variable {wl : Whitelist} {q : Select} {joined : String} {matching : Statement}
  {c : Clauses}

/-- The core is made of five clauses, of which some may be empty. -/
theorem Assembled.core_eq (h : q.Assembled wl joined matching c) :
    c.core = Statement.concat [.ofText ("FROM " ++ q.table), .ofText joined,
      matching, .ofText c.groupBy, c.having] := by
  rw [Clauses.core, h.base]
  simp only [Statement.concat_cons, Statement.concat_nil,
    Statement.append_empty, Statement.append_assoc]

theorem Assembled.sql_core (h : q.Assembled wl joined matching c) :
    c.core.sql = Text.joinNonEmpty " "
      ["FROM " ++ q.table, joined, matching.sql, c.groupBy, c.having.sql] := by
  rw [h.core_eq, Statement.sql_concat]
  rfl

theorem Assembled.args_core (h : q.Assembled wl joined matching c) :
    c.core.args = matching.args ++ c.having.args := by
  rw [h.core_eq, Statement.args_concat]
  simp [Statement.ofText]

theorem Assembled.sql_core_ne_empty (h : q.Assembled wl joined matching c) :
    c.core.sql ≠ "" := by
  rw [h.sql_core, Ne, Text.joinNonEmpty_eq_empty_iff]
  intro hempty
  have hfrom := hempty ("FROM " ++ q.table) List.mem_cons_self
  simp at hfrom

/-- An empty grouping and empty conditions on groups bring no arguments. -/
theorem Assembled.count_eq (h : q.Assembled wl joined matching c) :
    c.count =
      if c.groupBy = "" ∧ c.having.sql = "" then
        ⟨"SELECT COUNT(1) AS total " ++ c.core.sql, c.core.args⟩
      else
        ⟨"SELECT COUNT(*) AS total FROM (SELECT 1 " ++ c.core.sql ++ ") AS sub",
          c.core.args⟩ := by
  have hcore := h.sql_core_ne_empty
  split
  · rename_i hempty
    obtain ⟨hgroupBy, hsql⟩ := hempty
    have hcriteria := (havingClause_eq_empty_iff h.having).mp hsql
    have hhaving : c.having = .empty := by
      apply Except.ok.inj
      rw [← h.having, havingClause_of_criteria_eq_nil hcriteria]
    rw [Clauses.count_eq_of_empty hgroupBy hhaving]
    have hsql : Statement.spaced "SELECT COUNT(1) AS total" c.core.sql =
        "SELECT COUNT(1) AS total" ++ " " ++ c.core.sql :=
      Statement.spaced_of_ne_empty (by decide) hcore
    apply Statement.ext
    · exact hsql
    · rfl
  · rename_i hgrouped
    have hsql : Statement.spaced "SELECT 1" c.core.sql =
        "SELECT 1" ++ " " ++ c.core.sql :=
      Statement.spaced_of_ne_empty (by decide) hcore
    rw [Clauses.count_eq_of_ne_empty hgrouped, Statement.sql_append]
    change Statement.mk ("SELECT COUNT(*) AS total FROM (" ++
      Statement.spaced "SELECT 1" c.core.sql ++ ") AS sub") _ = _
    rw [hsql]
    simp only [← String.append_assoc]
    rfl

theorem Assembled.args_count (h : q.Assembled wl joined matching c) :
    c.count.args = matching.args ++ c.having.args := by
  rw [← h.args_core, h.count_eq]
  split <;> rfl

theorem Assembled.sql_data (h : q.Assembled wl joined matching c) :
    c.data.sql = "SELECT " ++ c.columns ++ " " ++ c.core.sql ++
      (if c.orderBy = "" then "" else " " ++ c.orderBy) ++
      " LIMIT ? OFFSET ?" := by
  have hcore := h.sql_core_ne_empty
  have hselect : "SELECT " ++ c.columns ≠ "" := by simp
  have hwindow : " LIMIT ? OFFSET ?" = " " ++ "LIMIT ? OFFSET ?" := rfl
  rw [Clauses.data_eq, h.window, hwindow]
  change Statement.spaced ("SELECT " ++ c.columns) (Statement.spaced c.core.sql
    (Statement.spaced c.orderBy "LIMIT ? OFFSET ?")) = _
  by_cases horder : c.orderBy = ""
  · rw [if_pos horder, horder, Statement.empty_spaced,
      Statement.spaced_of_ne_empty hcore (by decide),
      Statement.spaced_of_ne_empty hselect (by simp)]
    simp only [String.append_assoc, String.empty_append]
  · rw [if_neg horder, Statement.spaced_of_ne_empty horder (by decide),
      Statement.spaced_of_ne_empty hcore (by simp),
      Statement.spaced_of_ne_empty hselect (by simp)]
    simp only [String.append_assoc]

theorem Assembled.args_data (h : q.Assembled wl joined matching c) :
    c.data.args = c.core.args ++ [.uint q.limit, .uint q.offset] := by
  rw [Clauses.data_eq, h.window]
  rfl

end Select

/-- Of the filters only the conditions count that they come to. -/
theorem Select.Assembled.of_whereClause {wl : Whitelist} {q : Select}
    {joined : String} {matching : Statement} {c : Clauses}
    (h : q.Assembled wl joined matching c) {fs : Filters}
    (hfs : (whereClause wl fs).outcome = .ok matching) :
    { q with filters := fs }.Assembled wl joined matching c :=
  ⟨h.joins, h.columns, hfs, h.groupBy, h.having, h.orderBy, h.base, h.window⟩

/-! ## Both statements -/

/-- The number of rows is asked for without regard to the select list, the order
and the window. -/
theorem Select.Assembled.count_eq_count {wl : Whitelist} {q q' : Select}
    {joined joined' : String} {matching matching' : Statement}
    {c c' : Clauses} (h : q.Assembled wl joined matching c)
    (h' : q'.Assembled wl joined' matching' c') (htable : q.table = q'.table)
    (hjoins : q.joins = q'.joins) (hfilters : q.filters = q'.filters)
    (hgroupBy : q.groupBy = q'.groupBy) (hhaving : q.having = q'.having) :
    c.count = c'.count := by
  have hjoined : joined = joined' := by
    apply Except.ok.inj
    rw [← h.joins, ← h'.joins, hjoins]
  have hmatching : matching = matching' := by
    apply Except.ok.inj
    rw [← h.conditions, ← h'.conditions, hfilters]
  have hgroups : c.groupBy = c'.groupBy := by
    apply Except.ok.inj
    rw [← h.groupBy, ← h'.groupBy, hgroupBy]
  have hconditions : c.having = c'.having := by
    apply Except.ok.inj
    rw [← h.having, ← h'.having, hhaving]
  have hcore : c.core = c'.core := by
    rw [h.core_eq, h'.core_eq, htable, hjoined, hmatching, hgroups, hconditions]
  rw [h.count_eq, h'.count_eq, hcore, hgroups, hconditions]

/-- Both statements of a query are written around one text, which leads from
`FROM` to the last condition on groups.  They have the arguments of this text,
and the rows are asked for with the window besides.  The number of rows is
therefore the same whatever columns, order and window are asked for. -/
theorem data_and_count_share_core {wl : Whitelist} {q : Select}
    {s : Select.Statements} (h : (q.build wl).outcome = .ok s) :
    (∃ joins columns conditions groupBy having orderBy core,
      (joinClause wl q.joins).outcome = .ok joins ∧
      (columnList wl q.columns).outcome = .ok columns ∧
      (whereClause wl q.filters).outcome = .ok conditions ∧
      (groupClause wl q.groupBy).outcome = .ok groupBy ∧
      (havingClause wl q.having).outcome = .ok having ∧
      (orderClause wl q.orderBy : Audited BuildError String).outcome =
        .ok orderBy ∧
      core = Text.joinNonEmpty " "
        ["FROM " ++ q.table, joins, conditions.sql, groupBy, having.sql] ∧
      s.data.sql = "SELECT " ++ columns ++ " " ++ core ++
        (if orderBy = "" then "" else " " ++ orderBy) ++ " LIMIT ? OFFSET ?" ∧
      s.count.sql =
        (if groupBy = "" ∧ having.sql = "" then
          "SELECT COUNT(1) AS total " ++ core
        else "SELECT COUNT(*) AS total FROM (SELECT 1 " ++ core ++ ") AS sub") ∧
      (groupBy = "" ↔ q.groupBy = []) ∧
      (having.sql = "" ↔ q.having.criteria = []) ∧
      s.count.args = conditions.args ++ having.args ∧
      s.data.args = s.count.args ++ [.uint q.limit, .uint q.offset]) ∧
    ∀ columns orderBy limit offset s',
      ({ q with columns, orderBy, limit, offset }.build wl).outcome = .ok s' →
        s'.count = s.count := by
  obtain ⟨c, hc, rfl⟩ := Select.build_eq_ok h
  obtain ⟨joins, conditions, hq⟩ := Select.exists_assembled hc
  constructor
  · have hgroupBy := groupClause_eq_empty_iff hq.groupBy
    have hhaving := havingClause_eq_empty_iff hq.having
    have horderBy : (orderClause wl q.orderBy :
        Audited BuildError String).outcome = .ok c.orderBy := by
      rw [outcome_orderClause, hq.orderBy]
    have hcountArgs : c.count.args = conditions.args ++ c.having.args := by
      rw [← hq.args_core, hq.count_eq]
      split <;> rfl
    have hdataArgs := hq.args_data
    rw [hq.args_core, ← hcountArgs] at hdataArgs
    refine ⟨joins, c.columns, conditions, c.groupBy, c.having, c.orderBy,
      c.core.sql, hq.joins, hq.columns, hq.conditions, hq.groupBy, hq.having,
      horderBy, hq.sql_core, hq.sql_data, ?_, hgroupBy, hhaving, hcountArgs,
      hdataArgs⟩
    change c.count.sql = _
    rw [hq.count_eq]
    split <;> rfl
  · intro columns orderBy limit offset s' h'
    obtain ⟨c', hc', rfl⟩ := Select.build_eq_ok h'
    obtain ⟨joins', conditions', hq'⟩ := Select.exists_assembled hc'
    exact hq'.count_eq_count hq rfl rfl rfl rfl rfl

/-- A query with a join, groups and conditions on them, one of its filters
being skipped.  The same query for another page has the same count. -/
theorem data_and_count_share_core_grouped :
    let wl := Whitelist.ofLists ["orders", "users"] ["orders.id", "users.id"]
    let q : Select :=
      { table := "orders"
        filters := (Filters.empty.equal "orders.id" (.single (.int 1))).like
          "users.id" .absent
        joins := [{ table := "users", on := .columns "orders.id" "users.id" }]
        groupBy := ["users.id"]
        having := Filters.empty.atLeast "orders.id" (.single (.int 5)) }
    let core := "FROM orders LEFT JOIN users ON orders.id = users.id " ++
      "WHERE 1=1 AND orders.id = ? GROUP BY users.id " ++
      "HAVING 1=1 AND orders.id >= ?"
    let next := { q with
      columns := ["users.id"], orderBy := some ⟨"users.id", .descending⟩,
      limit := 5, offset := 5 }
    ∃ s s', (q.build wl).outcome = .ok s ∧ (next.build wl).outcome = .ok s' ∧
      s.data.sql = "SELECT * " ++ core ++ " LIMIT ? OFFSET ?" ∧
      s.count.sql =
        "SELECT COUNT(*) AS total FROM (SELECT 1 " ++ core ++ ") AS sub" ∧
      s.count.args = [.int 1, .int 5] ∧
      s.data.args = [.int 1, .int 5, .uint 10, .uint 0] ∧
      s'.count = s.count := by
  intro wl q core next
  have hbuild : ∃ s, (q.build wl).outcome = .ok s := ⟨_, rfl⟩
  have hnext : ∃ s, (next.build wl).outcome = .ok s := ⟨_, rfl⟩
  obtain ⟨s, hs⟩ := hbuild
  obtain ⟨s', hs'⟩ := hnext
  obtain ⟨⟨joins, columns, conditions, groupBy, having, orderBy, text, hjoins,
    hcolumns, hconditions, hgroupBy, hhaving, horderBy, rfl, hdata, hcount,
    -, -, hcountArgs, hdataArgs⟩, hsame⟩ :=
    data_and_count_share_core hs
  cases hjoins
  cases hcolumns
  cases hconditions
  cases hgroupBy
  cases hhaving
  cases horderBy
  have hdataArgs' : s.data.args = [.int 1, .int 5, .uint 10, .uint 0] := by
    rw [hdataArgs, hcountArgs]
    rfl
  exact ⟨s, s', hs, hs', hdata, hcount, hcountArgs, hdataArgs',
    hsame next.columns next.orderBy next.limit next.offset s' hs'⟩

end GuardedSql
