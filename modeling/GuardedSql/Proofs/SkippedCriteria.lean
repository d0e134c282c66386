import GuardedSql.Proofs.WrittenForms

/-!
# Queries without their skipped criteria

A criterion that is skipped leaves no trace in the conditions on rows: the
query is written as if it were not there.  Conditions on groups are an
exception.  They are left out when there are none, but not when all of them are
skipped: then `HAVING 1=1` is written, and the rows are counted through a
subquery even if they are not grouped.  Nothing else remains of skipped
criteria, and no argument does.
-/

namespace GuardedSql

/-! ## Filters -/

namespace Filters

/-- The criteria that are not skipped, and no others. -/
def withoutSkipped (fs : Filters) : Filters :=
  ⟨fs.rendered⟩

/-- There are criteria, and all of them are skipped. -/
def IsHollow (fs : Filters) : Prop :=
  fs.criteria ≠ [] ∧ fs.rendered = []

theorem rendered_withoutSkipped (fs : Filters) :
    fs.withoutSkipped.rendered = fs.rendered := by
  simp only [rendered, withoutSkipped, List.filter_filter, Bool.and_self]

theorem written_withoutSkipped (keyword : String) (fs : Filters) :
    fs.withoutSkipped.written keyword = fs.written keyword := by
  rw [written, written, rendered_withoutSkipped]

theorem written_of_rendered_eq_nil {fs : Filters} (h : fs.rendered = [])
    (keyword : String) : fs.written keyword = .ofText (keyword ++ " 1=1") := by
  rw [written, h]
  exact congrArg (Statement.mk · []) (String.append_empty)

theorem forall_acceptable_withoutSkipped {wl : Whitelist} {fs : Filters}
    (h : ∀ c ∈ fs.criteria, c.Acceptable wl) :
    ∀ c ∈ fs.withoutSkipped.criteria, c.Acceptable wl :=
  fun c hc => h c (List.mem_of_mem_filter hc)

end Filters

/-! ## Queries -/

namespace Select

/-- A query without the criteria that are skipped. -/
def withoutSkipped (q : Select) : Select :=
  { q with
    filters := q.filters.withoutSkipped
    having := q.having.withoutSkipped }

variable {wl : Whitelist} {q : Select}

theorem Acceptable.withoutSkipped (h : q.Acceptable wl) :
    q.withoutSkipped.Acceptable wl where
  table := h.table
  joinTables := h.joinTables
  joinColumns := h.joinColumns
  columns := h.columns
  filters := Filters.forall_acceptable_withoutSkipped h.filters
  groupBy := h.groupBy
  having := Filters.forall_acceptable_withoutSkipped h.having

/-- Skipped criteria make no difference except for the conditions on groups,
which are left out when none remains. -/
theorem written_withoutSkipped (wl : Whitelist) (q : Select) :
    q.withoutSkipped.written wl =
      { q.written wl with
        having :=
          if q.having.rendered = [] then .empty
          else q.having.written "HAVING" } := by
  simp only [written, withoutSkipped, Filters.written_withoutSkipped]
  rfl

theorem written_withoutSkipped_of_not_hollow (wl : Whitelist)
    (h : ¬q.having.IsHollow) : q.withoutSkipped.written wl = q.written wl := by
  have hhaving : (q.written wl).having =
      if q.having.rendered = [] then .empty else q.having.written "HAVING" := by
    by_cases hcriteria : q.having.criteria = []
    · have hrendered : q.having.rendered = [] := by
        rw [Filters.rendered, hcriteria, List.filter_nil]
      rw [if_pos hrendered]
      exact if_pos hcriteria
    · have hrendered : q.having.rendered ≠ [] := fun hnil =>
        h ⟨hcriteria, hnil⟩
      rw [if_neg hrendered]
      exact if_neg hcriteria
  rw [written_withoutSkipped, ← hhaving]

theorem having_written_of_hollow (wl : Whitelist) (h : q.having.IsHollow) :
    (q.written wl).having = .ofText "HAVING 1=1" := by
  have hwritten := Filters.written_of_rendered_eq_nil h.2 "HAVING"
  exact (if_neg h.1).trans hwritten

theorem having_written_withoutSkipped_of_hollow (wl : Whitelist)
    (h : q.having.IsHollow) :
    (q.withoutSkipped.written wl).having = .empty := by
  rw [written_withoutSkipped]
  exact if_pos h.2

theorem core_written_of_hollow (wl : Whitelist) (h : q.having.IsHollow) :
    (q.written wl).core =
      (q.withoutSkipped.written wl).core ++ .ofText "HAVING 1=1" := by
  rw [Clauses.core, Clauses.core, having_written_of_hollow wl h,
    having_written_withoutSkipped_of_hollow wl h, written_withoutSkipped,
    Statement.append_empty, Statement.append_assoc]

theorem Acceptable.exists_assembled (h : q.Acceptable wl) :
    ∃ joined matching, q.Assembled wl joined matching (q.written wl) :=
  Select.exists_assembled (outcome_clauses_eq_ok_iff.mpr ⟨h, rfl⟩)

theorem Acceptable.sql_core_of_hollow (h : q.Acceptable wl)
    (hhollow : q.having.IsHollow) :
    (q.written wl).core.sql =
      (q.withoutSkipped.written wl).core.sql ++ " HAVING 1=1" := by
  obtain ⟨joined, matching, hq⟩ := h.withoutSkipped.exists_assembled
  have hkeyword : "HAVING 1=1" ≠ "" := by decide
  have hspaced := Statement.spaced_of_ne_empty hq.sql_core_ne_empty hkeyword
  rw [core_written_of_hollow wl hhollow, Statement.sql_append]
  exact hspaced.trans (String.append_assoc)

theorem args_core_written_of_hollow (hhollow : q.having.IsHollow) :
    (q.written wl).core.args = (q.withoutSkipped.written wl).core.args := by
  rw [core_written_of_hollow wl hhollow]
  exact List.append_nil _

theorem Acceptable.sql_data_of_hollow (h : q.Acceptable wl)
    (hhollow : q.having.IsHollow) :
    ∃ columns order,
      (q.written wl).data.sql = "SELECT " ++ columns ++ " " ++
        (q.withoutSkipped.written wl).core.sql ++ " HAVING 1=1" ++ order ++
          " LIMIT ? OFFSET ?" ∧
      (q.withoutSkipped.written wl).data.sql = "SELECT " ++ columns ++ " " ++
        (q.withoutSkipped.written wl).core.sql ++ order ++
          " LIMIT ? OFFSET ?" := by
  obtain ⟨joined, matching, hq⟩ := h.exists_assembled
  obtain ⟨joined', matching', hq'⟩ := h.withoutSkipped.exists_assembled
  refine ⟨(q.written wl).columns, _, ?_, hq'.sql_data⟩
  rw [hq.sql_data, h.sql_core_of_hollow hhollow]
  simp only [String.append_assoc]
  rfl

theorem Acceptable.args_data_of_hollow (h : q.Acceptable wl)
    (hhollow : q.having.IsHollow) :
    (q.withoutSkipped.written wl).data.args = (q.written wl).data.args := by
  obtain ⟨joined, matching, hq⟩ := h.exists_assembled
  obtain ⟨joined', matching', hq'⟩ := h.withoutSkipped.exists_assembled
  rw [hq.args_data, hq'.args_data, args_core_written_of_hollow hhollow]
  rfl

/-- The rows of a query that is not grouped are counted one by one as soon as
nothing is left of its conditions on groups. -/
theorem Acceptable.count_of_hollow (h : q.Acceptable wl)
    (hhollow : q.having.IsHollow) :
    (q.written wl).count =
      ⟨"SELECT COUNT(*) AS total FROM (SELECT 1 " ++
          (q.withoutSkipped.written wl).core.sql ++ " HAVING 1=1) AS sub",
        (q.withoutSkipped.written wl).core.args⟩ ∧
    (q.withoutSkipped.written wl).count =
      ⟨if q.groupBy = [] then
          "SELECT COUNT(1) AS total " ++ (q.withoutSkipped.written wl).core.sql
        else
          "SELECT COUNT(*) AS total FROM (SELECT 1 " ++
            (q.withoutSkipped.written wl).core.sql ++ ") AS sub",
        (q.withoutSkipped.written wl).core.args⟩ := by
  obtain ⟨joined, matching, hq⟩ := h.exists_assembled
  obtain ⟨joined', matching', hq'⟩ := h.withoutSkipped.exists_assembled
  constructor
  · have hkeyword : ¬((q.written wl).groupBy = "" ∧
        (q.written wl).having.sql = "") := by
      rw [having_written_of_hollow wl hhollow]
      simp [Statement.ofText]
    rw [hq.count_eq, if_neg hkeyword, h.sql_core_of_hollow hhollow,
      args_core_written_of_hollow hhollow]
    simp only [String.append_assoc]
    rfl
  · have hgrouped : (q.withoutSkipped.written wl).groupBy = "" ∧
        (q.withoutSkipped.written wl).having.sql = "" ↔ q.groupBy = [] := by
      rw [groupClause_eq_empty_iff hq'.groupBy,
        having_written_withoutSkipped_of_hollow wl hhollow]
      exact and_iff_left rfl
    rw [hq'.count_eq]
    simp only [hgrouped]
    split <;> rfl

end Select

/-! ## Statements -/

/-- What is left of the skipped criteria of a query.  Those on rows leave
nothing.  Those on groups leave nothing either, unless there are no others:
then `HAVING 1=1` stands after the conditions on rows and the grouping, and the
rows are counted through a subquery. -/
theorem skipped_criteria_leave_keyword {wl : Whitelist} {q : Select}
    {s : Select.Statements} (h : (q.build wl).outcome = .ok s) :
    ({ q with filters := q.filters.withoutSkipped }.build wl).outcome =
        .ok s ∧
      ∃ s', (q.withoutSkipped.build wl).outcome = .ok s' ∧
        s'.data.args = s.data.args ∧ s'.count.args = s.count.args ∧
        (s' = s ↔ ¬q.having.IsHollow) ∧
        (q.having.IsHollow → ∃ columns core order,
          s.data.sql = "SELECT " ++ columns ++ " " ++ core ++ " HAVING 1=1" ++
            order ++ " LIMIT ? OFFSET ?" ∧
          s'.data.sql = "SELECT " ++ columns ++ " " ++ core ++ order ++
            " LIMIT ? OFFSET ?" ∧
          s.count.sql = "SELECT COUNT(*) AS total FROM (SELECT 1 " ++ core ++
            " HAVING 1=1) AS sub" ∧
          s'.count.sql =
            if q.groupBy = [] then "SELECT COUNT(1) AS total " ++ core
            else
              "SELECT COUNT(*) AS total FROM (SELECT 1 " ++ core ++
                ") AS sub") := by
  obtain ⟨hq, rfl⟩ := Select.outcome_build_eq_ok_iff.mp h
  have hq' := hq.withoutSkipped
  constructor
  · refine Select.outcome_build_eq_ok_iff.mpr ⟨?_, ?_⟩
    · exact { hq with filters := hq'.filters }
    · simp only [Select.written, Filters.written_withoutSkipped]
  refine ⟨_, Select.outcome_build_eq_ok_iff.mpr ⟨hq', rfl⟩, ?_⟩
  by_cases hhollow : q.having.IsHollow
  · obtain ⟨columns, order, hdata, hdata'⟩ := hq.sql_data_of_hollow hhollow
    obtain ⟨hcount, hcount'⟩ := hq.count_of_hollow hhollow
    have hlonger : (q.withoutSkipped.written wl).data.sql ≠
        (q.written wl).data.sql := by
      intro hsame
      have hlength := congrArg String.length hsame
      have hkeyword : 0 < " HAVING 1=1".length := by decide
      simp only [hdata, hdata', String.length_append] at hlength
      omega
    refine ⟨hq.args_data_of_hollow hhollow, ?_, ?_, fun _ =>
      ⟨columns, _, order, hdata, hdata', ?_, ?_⟩⟩
    · rw [hcount, hcount']
    · refine iff_of_false (fun hsame => hlonger ?_) (not_not.mpr hhollow)
      exact congrArg (fun s => s.data.sql) hsame
    · rw [hcount]
    · rw [hcount']
  · have hsame := Select.written_withoutSkipped_of_not_hollow wl hhollow
    rw [hsame]
    exact ⟨rfl, rfl, iff_of_true rfl hhollow, fun h => absurd h hhollow⟩

/-- Skipped conditions on rows and on groups, with a condition on rows between
them.  The query without them is counted without a subquery. -/
theorem skipped_criteria_leave_keyword_ungrouped :
    let wl := Whitelist.ofLists ["t"] ["id", "note"]
    let skipped := (Filters.empty.like "note" .absent).anyOf
      [⟨"note", .equal, .single .null⟩, ⟨"id", .inList, .list []⟩]
    let q : Select :=
      { table := "t"
        filters := skipped.equal "id" (.single (.int 1))
        having := skipped }
    let core := "FROM t WHERE 1=1 AND id = ?"
    q.having.IsHollow ∧
      ∃ s s', (q.build wl).outcome = .ok s ∧
        (q.withoutSkipped.build wl).outcome = .ok s' ∧ s' ≠ s ∧
        s'.data.args = s.data.args ∧
        s.data.sql = "SELECT * " ++ core ++ " HAVING 1=1 LIMIT ? OFFSET ?" ∧
        s'.data.sql = "SELECT * " ++ core ++ " LIMIT ? OFFSET ?" ∧
        s.count.sql = "SELECT COUNT(*) AS total FROM (SELECT 1 " ++ core ++
          " HAVING 1=1) AS sub" ∧
        s'.count.sql = "SELECT COUNT(1) AS total " ++ core := by
  intro wl skipped q core
  have hhollow : q.having.IsHollow := ⟨List.cons_ne_nil _ _, rfl⟩
  have hbuild : ∃ s, (q.build wl).outcome = .ok s := ⟨_, rfl⟩
  obtain ⟨s, hs⟩ := hbuild
  obtain ⟨-, s', hs', hargs, -, hsame, -⟩ := skipped_criteria_leave_keyword hs
  have hne : s' ≠ s := fun heq => hsame.mp heq hhollow
  refine ⟨hhollow, s, s', hs, hs', hne, hargs, ?_⟩
  cases hs
  cases hs'
  decide

/-- A condition on groups without a value is written as `HAVING 1=1`, which the
query without it is not. -/
theorem not_skipped_criteria_leave_nothing :
    ¬∀ (wl : Whitelist) (q : Select) (s : Select.Statements),
      (q.build wl).outcome = .ok s →
        (q.withoutSkipped.build wl).outcome = .ok s := by
  intro h
  let wl := Whitelist.ofLists ["t"] ["id"]
  let q : Select :=
    { table := "t", having := Filters.empty.equal "id" .absent }
  have hsame := h wl q _ rfl
  have hcount := congrArg (fun s => s.count.sql) (Except.ok.inj hsame)
  exact absurd hcount (by decide)

end GuardedSql
