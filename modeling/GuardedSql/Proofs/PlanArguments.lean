import GuardedSql.Proofs.Search
import GuardedSql.Proofs.SharedCore

/-!
# How the statements of a plan fit together

The number of all rows is asked for without filters.  The number of rows that a
search leaves has the arguments of the filters and then the search text, once
for each searched column.  The statement for the rows of the page has these
arguments too, and those of the window after them.
-/

namespace GuardedSql

/-! ## Arguments of a clause -/

theorem Predicate.args_clause (keyword : String) (p : Predicate) :
    (p.clause keyword).args = p.flatMap fun t => t.statement.args := by
  rw [clause, Statement.args_concat, List.flatMap_cons, List.flatMap_map]
  rfl

/-- Filters that are all skipped make the clause that restricts nothing. -/
theorem whereClause_of_rendered_eq_nil {wl : Whitelist} {fs : Filters}
    {s : Statement} (h : (whereClause wl fs).outcome = .ok s)
    (hrendered : fs.rendered = []) : s = Predicate.clause "WHERE" [] := by
  obtain ⟨p, hp, rfl⟩ := whereClause_eq_ok h
  have hyields := Predicate.forall₂_yields_of_ofFilters hp
  rw [hrendered, List.forall₂_nil_left_iff] at hyields
  rw [hyields]

namespace PagedTable

variable {d : PagedTable} {r : Request} {plan : Plan}

/-- The arguments that a search adds: its text as a pattern, once for each
searched column. -/
def searchArgs (d : PagedTable) (search : String) : List Value :=
  if search = "" then []
  else d.targets.map fun _ => .text ("%" ++ search ++ "%")

theorem args_whereClause_restriction {search : String} {s : Statement}
    (h : (whereClause d.whitelist (d.restriction search)).outcome = .ok s) :
    ∃ own, (whereClause d.whitelist d.filters).outcome = .ok own ∧
      s.args = own.args ++ d.searchArgs search := by
  by_cases hsearch : search = ""
  · rw [hsearch, d.restriction_empty] at h
    refine ⟨s, h, ?_⟩
    rw [searchArgs, if_pos hsearch, List.append_nil]
  · rw [searchArgs, if_neg hsearch]
    by_cases htargets : d.targets = []
    · -- A search in no column adds no group.
      have hgroup : d.searchGroup search = [] := by
        rw [searchGroup, htargets, List.map_nil]
      rw [d.restriction_of_ne_empty hsearch, hgroup] at h
      refine ⟨s, h, ?_⟩
      rw [htargets, List.map_nil, List.append_nil]
    · obtain ⟨found, hfound, rfl⟩ := whereClause_eq_ok h
      obtain ⟨p, hp, rfl⟩ := ofFilters_restriction hsearch htargets hfound
      have hargs : (d.targets.map (searchCondition search)).flatMap
          Condition.args =
            d.targets.map fun _ => .text ("%" ++ search ++ "%") := by
        rw [List.flatMap_map, List.map_eq_flatMap]
        rfl
      refine ⟨p.clause "WHERE", ?_, ?_⟩
      · exact Audited.outcome_bind_pure_eq_ok_iff.mpr ⟨p, hp, rfl⟩
      · rw [Predicate.args_clause, Predicate.args_clause, List.flatMap_append,
          List.flatMap_singleton, ← hargs]
        rfl

/-! ## The window -/

theorem toNat_windowSize (length : Int64) :
    (windowSize length).toNat =
      if 0 ≤ length.toInt then length.toInt.toNat else UInt64.size - 1 := by
  by_cases h : 0 ≤ length.toInt
  · have hnot : ¬length < 0 := by
      rw [Int64.lt_iff_toInt_lt]
      exact Int.not_lt.mpr h
    have hbits := length.toBitVec.toInt_eq_toNat_cond
    have hbound := length.toBitVec.isLt
    rw [windowSize, if_neg hnot, if_pos h]
    change 0 ≤ length.toBitVec.toInt at h
    change length.toBitVec.toNat = length.toBitVec.toInt.toNat
    omega
  · have hneg : length < 0 := by
      rw [Int64.lt_iff_toInt_lt]
      exact Int.not_le.mp h
    rw [windowSize, if_pos hneg, if_neg h]
    rfl

/-! ## The statements of a plan -/

/-- The filtered count and the rows of a page come from one query, made of the
filters and the search. -/
theorem plan_eq_ok_assembled (h : (d.plan r).outcome = .ok plan) :
    ∃ joined matching c,
      (d.pageRows r).Assembled d.whitelist joined matching c ∧
      c.having = .empty ∧ plan.filtered = c.count ∧ plan.data = c.data := by
  obtain ⟨all, page, -, hpage, rfl⟩ := plan_eq_ok h
  obtain ⟨c, hc, rfl⟩ := Select.build_eq_ok hpage
  obtain ⟨joined, matching, hq⟩ := Select.exists_assembled hc
  refine ⟨joined, matching, c, hq, ?_, rfl, rfl⟩
  have hnone : (havingClause d.whitelist (d.pageRows r).having).outcome =
      .ok .empty := havingClause_of_criteria_eq_nil rfl
  exact Except.ok.inj (hq.having.symm.trans hnone)

theorem args_filtered (h : (d.plan r).outcome = .ok plan) :
    ∃ own, (whereClause d.whitelist d.filters).outcome = .ok own ∧
      plan.filtered.args = own.args ++ d.searchArgs r.search := by
  obtain ⟨joined, matching, c, hq, hhaving, hfiltered, -⟩ :=
    plan_eq_ok_assembled h
  obtain ⟨own, hown, hargs⟩ := args_whereClause_restriction hq.conditions
  refine ⟨own, hown, ?_⟩
  rw [hfiltered, hq.args_count, hhaving, ← hargs]
  exact List.append_nil _

theorem args_data (h : (d.plan r).outcome = .ok plan) :
    plan.data.args = plan.filtered.args ++
      [.uint (windowSize r.length), .uint r.start] := by
  obtain ⟨joined, matching, c, hq, -, hfiltered, hdata⟩ :=
    plan_eq_ok_assembled h
  rw [hfiltered, hdata, hq.args_data, hq.args_core, hq.args_count]
  rfl

/-- Without a search and without conditions, the count of a page is that of all
rows. -/
theorem filtered_eq_total (h : (d.plan r).outcome = .ok plan)
    (hsearch : r.search = "") (hrendered : d.filters.rendered = []) :
    plan.filtered = plan.total := by
  obtain ⟨all, page, hall, hpage, rfl⟩ := plan_eq_ok h
  obtain ⟨c, hc, rfl⟩ := Select.build_eq_ok hpage
  obtain ⟨c', hc', rfl⟩ := Select.build_eq_ok hall
  obtain ⟨joined, matching, hq⟩ := Select.exists_assembled hc
  obtain ⟨joined', matching', hq'⟩ := Select.exists_assembled hc'
  have hmatching : matching = Predicate.clause "WHERE" [] := by
    have hconditions := hq.conditions
    rw [pageRows, hsearch, d.restriction_empty] at hconditions
    exact whereClause_of_rendered_eq_nil hconditions hrendered
  have hbare : (whereClause d.whitelist .empty).outcome = .ok matching := by
    rw [hmatching]
    rfl
  exact (hq.of_whereClause hbare).count_eq_count hq' rfl rfl rfl rfl rfl

/-- The total is the count of the query without filters and search, which no
request and no filters change.  The filtered count has the arguments of the
filters, followed by the search text for each searched column.  The rows of the
page have these arguments and those of the window, which is as long as there
are numbers when the length is negative.  Without a search and without
conditions both counts are the same statement. -/
theorem plan_statements_fit (h : (d.plan r).outcome = .ok plan) :
    (∃ all : Select.Statements,
      (Select.build d.whitelist
        { table := d.table, columns := d.columns, joins := d.joins
          groupBy := d.groupBy.toList }).outcome = .ok all ∧
      plan.total = all.count) ∧
    (∀ (filters : Filters) (r' : Request) (plan' : Plan),
      ({ d with filters }.plan r').outcome = .ok plan' →
        plan'.total = plan.total) ∧
    (∃ own, (whereClause d.whitelist d.filters).outcome = .ok own ∧
      plan.filtered.args = own.args ++
        if r.search = "" then []
        else (d.searched.getD d.whitelist.searchable).map fun _ =>
          .text ("%" ++ r.search ++ "%")) ∧
    (∃ limit : UInt64,
      limit.toNat =
        (if 0 ≤ r.length.toInt then r.length.toInt.toNat else UInt64.size - 1) ∧
      plan.data.args =
        plan.filtered.args ++ [.uint limit, .uint r.start]) ∧
    (r.search = "" → d.filters.rendered = [] →
      plan.filtered = plan.total) := by
  refine ⟨?_, ?_, args_filtered h, ?_, filtered_eq_total h⟩
  · obtain ⟨all, page, hall, -, rfl⟩ := plan_eq_ok h
    exact ⟨all, hall, rfl⟩
  · intro filters r' plan' h'
    obtain ⟨all, page, hall, -, rfl⟩ := plan_eq_ok h
    obtain ⟨all', page', hall', -, rfl⟩ := plan_eq_ok h'
    have hsame : all' = all := Except.ok.inj (hall'.symm.trans hall)
    rw [hsame]
  · exact ⟨windowSize r.length, toNat_windowSize r.length, args_data h⟩

/-- A search in a grouped table, for all rows from the thirtieth on, and the
same table without a condition and without a search. -/
theorem plan_statements_fit_grouped :
    let blank : Filter := ⟨"status", .equal, .single (.text "")⟩
    let early : Filter := ⟨"id", .between, .list [.int 1, .int 5]⟩
    let d : PagedTable :=
      { whitelist := .ofLists ["orders"] ["id", "orders.name AS n", "status"]
        table := "orders", groupBy := some "status"
        filters := .ofList [blank, early] }
    let bare : PagedTable := { d with filters := .ofList [blank] }
    let r : Request := { start := 30, length := -1, search := "ann" }
    ∃ plan plan' all, (d.plan r).outcome = .ok plan ∧
      (bare.plan {}).outcome = .ok plan' ∧
      (d.allRows.build d.whitelist).outcome = .ok all ∧
      plan.total = all.count ∧ plan'.total = plan.total ∧
      plan.filtered.args =
        [.int 1, .int 5, .text "%ann%", .text "%ann%", .text "%ann%"] ∧
      plan.data.args = plan.filtered.args ++
        [.uint 18446744073709551615, .uint 30] ∧
      bare.filters.rendered = [] ∧ plan'.filtered = plan'.total := by
  intro blank early d bare r
  have hplan : ∃ plan, (d.plan r).outcome = .ok plan := by
    unfold d r
    exact ⟨_, rfl⟩
  have hplan' : ∃ plan, (bare.plan {}).outcome = .ok plan := ⟨_, rfl⟩
  have hrendered : bare.filters.rendered = [] := rfl
  obtain ⟨plan, hplan⟩ := hplan
  obtain ⟨plan', hplan'⟩ := hplan'
  obtain ⟨⟨all, hall, htotal⟩, hsame, ⟨own, hown, hfiltered⟩,
    ⟨limit, hlimit, hdata⟩, -⟩ := plan_statements_fit hplan
  obtain ⟨-, -, -, -, hequal⟩ := plan_statements_fit hplan'
  cases hown
  have hmax : limit = 18446744073709551615 := UInt64.toNat_inj.mp hlimit
  rw [hmax] at hdata
  exact ⟨plan, plan', all, hplan, hplan', hall, htotal,
    hsame bare.filters {} plan' hplan', hfiltered, hdata, hrendered,
    hequal rfl hrendered⟩

end PagedTable

end GuardedSql
