import GuardedSql.Proofs.Acceptance
import GuardedSql.Proofs.Plans

/-!
# Which requests are refused

A plan makes the demands of its table, which no request can change.  A search
adds the demand that its columns are searchable, which the columns of the
whitelist always meet.  So without columns of its own for searching, a table is
planned for every request or refused with one error for all of them.
-/

namespace GuardedSql

theorem Filters.checks_anyOf (wl : Whitelist) (fs : Filters)
    (group : List Filter) :
    (fs.anyOf group).checks wl =
      fs.checks wl ++ (Criterion.anyOf group).checks wl := by
  rw [Filters.checks, criteria_anyOf, List.flatMap_append]
  refine congrArg (fs.checks wl ++ ·) ?_
  by_cases hgroup : group = []
  · rw [hgroup]
    rfl
  · have hsome : ¬group.isEmpty = true := by simpa using hgroup
    rw [if_neg hsome, List.flatMap_cons, List.flatMap_nil, List.append_nil]

/-- When all else of a query is acceptable, its filters decide. -/
theorem Select.firstViolated_filters_iff {wl : Whitelist} {q : Select}
    (h : ∀ check ∈ ({ q with filters := .empty } : Select).checks wl,
      check.demand) {e : BuildError} :
    FirstViolated (q.checks wl) e ↔ FirstViolated (q.filters.checks wl) e := by
  have hparts (fs : Filters) :
      ({ q with filters := fs } : Select).checks wl =
        (wl.tableCheck q.table :: q.joins.flatMap (Join.checks wl) ++
          q.columns.map wl.selectCheck) ++
        (fs.checks wl ++
          (q.groupBy.map wl.columnCheck ++ q.having.checks wl)) := by
    simp only [Select.checks, List.append_assoc]
  have hown : q.checks wl = _ := hparts q.filters
  rw [hparts] at h
  rw [hown]
  apply firstViolated_between_iff
  · intro check hcheck
    exact h check (List.mem_append_left _ hcheck)
  · intro check hcheck
    exact h check (List.mem_append_right _ (List.mem_append_right _ hcheck))

namespace PagedTable

/-- The demands that a table makes on every request. -/
def checks (d : PagedTable) : List (Check BuildError) :=
  d.allRows.checks d.whitelist ++ d.filters.checks d.whitelist

def searchChecks (d : PagedTable) (search : String) :
    List (Check BuildError) :=
  if search = "" then [] else d.targets.map d.whitelist.searchCheck

/-! ## The demands on one request -/

/-- The members of the group of a search have single values, which always fit,
so of their checks only those of the columns count. -/
theorem firstViolated_restriction_iff (d : PagedTable) (search : String)
    {e : BuildError} :
    FirstViolated ((d.restriction search).checks d.whitelist) e ↔
      FirstViolated
        (d.filters.checks d.whitelist ++ d.searchChecks search) e := by
  by_cases hsearch : search = ""
  · rw [hsearch, d.restriction_empty, searchChecks, if_pos rfl,
      List.append_nil]
  · have hgroup : FirstViolated
        ((Criterion.anyOf (d.searchGroup search)).checks d.whitelist) e ↔
          FirstViolated (d.searchChecks search) e := by
      rw [Criterion.checks, searchGroup, List.flatMap_map, searchChecks,
        if_neg hsearch]
      apply firstViolated_flatMap_pair_iff
      intro column _ vs hvs
      cases hvs
    rw [d.restriction_of_ne_empty hsearch, Filters.checks_anyOf,
      firstViolated_append_iff, firstViolated_append_iff, hgroup]

/-- The query for the rows of a page adds only demands on its filters to those
of the query for all rows. -/
theorem firstViolated_pageRows_iff {d : PagedTable} {r : Request}
    (h : ∀ check ∈ d.allRows.checks d.whitelist, check.demand)
    {e : BuildError} :
    FirstViolated ((d.pageRows r).checks d.whitelist) e ↔
      FirstViolated ((d.restriction r.search).checks d.whitelist) e :=
  Select.firstViolated_filters_iff (q := d.pageRows r) h

theorem decidedBy_plan (d : PagedTable) (r : Request) :
    DecidedBy (d.plan r).outcome (d.checks ++ d.searchChecks r.search) := by
  rw [checks, List.append_assoc]
  have hall := d.allRows.decidedBy_build d.whitelist
  refine hall.bind fun all hok => ?_
  have hmet := hall.isOk_iff.mp ⟨all, hok⟩
  have hpage := (d.pageRows r).decidedBy_build d.whitelist
  apply DecidedBy.bind_pure
  apply hpage.congr
  intro e
  rw [firstViolated_pageRows_iff hmet, firstViolated_restriction_iff]

/-! ## Requests that search -/

theorem decidedBy_plan_default (d : PagedTable) :
    DecidedBy (d.plan {}).outcome d.checks := by
  have h := d.decidedBy_plan {}
  rwa [searchChecks, if_pos rfl, List.append_nil] at h

/-- The columns that a whitelist offers for searching are searchable. -/
theorem forall_demand_searchChecks {d : PagedTable} (h : d.searched = none)
    (search : String) :
    ∀ check ∈ d.searchChecks search, check.demand := by
  intro check hcheck
  by_cases hsearch : search = ""
  · rw [searchChecks, if_pos hsearch] at hcheck
    exact absurd hcheck List.not_mem_nil
  · have htargets : d.targets = d.whitelist.searchable := by
      rw [targets, h, Option.getD_none]
    rw [searchChecks, if_neg hsearch, htargets] at hcheck
    obtain ⟨column, hcolumn, rfl⟩ := List.mem_map.mp hcheck
    exact Whitelist.canSearch_iff_searchable.mp
      (Whitelist.mem_searchable.mp hcolumn)

/-- Without columns of its own for searching, a table makes the same demands on
every request. -/
theorem decidedBy_plan_of_searched_eq_none {d : PagedTable}
    (h : d.searched = none) (r : Request) :
    DecidedBy (d.plan r).outcome d.checks := by
  apply (d.decidedBy_plan r).congr
  intro e
  have hsearch := forall_demand_searchChecks h r.search
  have hnone := forall_demand_iff.mp hsearch e
  rw [firstViolated_append_iff]
  exact or_iff_left fun hviolated => hnone hviolated.2

theorem firstViolated_searchChecks_iff {d : PagedTable} {columns : List String}
    (h : d.searched = some columns) {search : String} {e : BuildError} :
    FirstViolated (d.searchChecks search) e ↔
      search ≠ "" ∧ ∃ column,
        columns.find? (fun c => !d.whitelist.canSearch c) = some column ∧
          .columnNotAllowed column = e := by
  have htargets : d.targets = columns := by
    rw [targets, h, Option.getD_some]
  by_cases hsearch : search = ""
  · rw [searchChecks, if_pos hsearch]
    simp [FirstViolated, hsearch]
  · rw [searchChecks, if_neg hsearch, htargets, and_iff_right hsearch]
    exact firstViolated_map_iff fun _ => Whitelist.canSearch_iff_searchable

/-- A table without columns of its own for searching is planned for all
requests or refused with one error for all of them.  A table with such columns
refuses a request with the error that it refuses the default request with, or,
if it refuses that one with none, with the first of these columns that is not
searchable when the request searches. -/
theorem plan_refused_iff (d : PagedTable) :
    (d.searched = none →
      (∀ r, ∃ plan, (d.plan r).outcome = .ok plan) ∨
        ∃ e, ∀ r, (d.plan r).outcome = .error e) ∧
    ∀ columns, d.searched = some columns → ∀ r e,
      (d.plan r).outcome = .error e ↔
        (d.plan {}).outcome = .error e ∨
          (∃ plan, (d.plan {}).outcome = .ok plan) ∧ r.search ≠ "" ∧
            ∃ column,
              columns.find? (fun c => !d.whitelist.canSearch c) =
                some column ∧
              e = .columnNotAllowed column := by
  have hdefault := d.decidedBy_plan_default
  constructor
  · intro hsearched
    rcases hdefault with ⟨_, -, hall⟩ | ⟨e, -, hviolated⟩
    · left
      intro r
      exact (decidedBy_plan_of_searched_eq_none hsearched r).isOk_iff.mpr hall
    · right
      refine ⟨e, fun r => ?_⟩
      have hr := decidedBy_plan_of_searched_eq_none hsearched r
      exact hr.eq_error_iff.mpr hviolated
  · intro columns hsearched r e
    rw [(d.decidedBy_plan r).eq_error_iff, firstViolated_append_iff,
      hdefault.eq_error_iff, hdefault.isOk_iff,
      firstViolated_searchChecks_iff hsearched]
    simp only [eq_comm]

/-- A table that is planned for every request, a table that is not listed, and
one that is searched in a column with an aggregate, which stands before one
that is not listed. -/
theorem plan_refused_iff_aggregate :
    let d : PagedTable :=
      { whitelist :=
          .ofLists ["users"] ["id", "users.name AS name", "COUNT(id)"]
        table := "users" }
    let unlisted : PagedTable := { d with table := "secrets" }
    let columns := ["users.name", "COUNT(id)", "age"]
    let own : PagedTable := { d with searched := some columns }
    let r : Request :=
      { start := 20, search := "ann", orderColumn := some "age" }
    (∀ r', ∃ plan, (d.plan r').outcome = .ok plan) ∧
      (∀ r', (unlisted.plan r').outcome =
        .error (.tableNotAllowed "secrets")) ∧
      (∃ plan, (own.plan {}).outcome = .ok plan) ∧
      (own.plan r).outcome = .error (.columnNotAllowed "COUNT(id)") := by
  intro d unlisted columns own r
  have hplanned : ∃ plan, (d.plan {}).outcome = .ok plan := ⟨_, rfl⟩
  have hunlisted : (unlisted.plan {}).outcome =
      .error (.tableNotAllowed "secrets") := rfl
  have hown : ∃ plan, (own.plan {}).outcome = .ok plan := ⟨_, rfl⟩
  refine ⟨?_, ?_, hown, ?_⟩
  · rcases (plan_refused_iff d).1 rfl with hall | ⟨e, hnone⟩
    · exact hall
    · obtain ⟨plan, hplan⟩ := hplanned
      rw [hnone] at hplan
      cases hplan
  · rcases (plan_refused_iff unlisted).1 rfl with hall | ⟨e, hnone⟩
    · obtain ⟨plan, hplan⟩ := hall {}
      rw [hunlisted] at hplan
      cases hplan
    · intro r'
      rw [hnone r', ← hnone {}, hunlisted]
  · have hfind : columns.find? (fun c => !d.whitelist.canSearch c) =
        some "COUNT(id)" := by decide
    rw [(plan_refused_iff own).2 columns rfl r]
    exact .inr ⟨hown, by decide, _, hfind, rfl⟩

end PagedTable

end GuardedSql
