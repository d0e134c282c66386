import GuardedSql.PagedTable.Plan
import GuardedSql.Proofs.Results

/-!
# What plans are made of

A plan takes the count of one query and both statements of another one.  The
filters of the second query are those of the table and, when there is a search
text, a group with a filter for each searched column.
-/

namespace GuardedSql.PagedTable

open Audited (outcome_bind_eq_ok_iff outcome_bind_pure_eq_ok_iff)

variable {d : PagedTable} {r : Request} {plan : Plan}

theorem plan_eq_ok (h : (d.plan r).outcome = .ok plan) :
    ∃ all page, (d.allRows.build d.whitelist).outcome = .ok all ∧
      ((d.pageRows r).build d.whitelist).outcome = .ok page ∧
      plan = ⟨all.count, page.count, page.data⟩ := by
  obtain ⟨all, hall, h⟩ := outcome_bind_eq_ok_iff.mp h
  obtain ⟨page, hpage, rfl⟩ := outcome_bind_pure_eq_ok_iff.mp h
  exact ⟨all, page, hall, hpage, rfl⟩

/-! ## Searching -/

/-- The filters of which one has to hold of a row that a search finds. -/
def searchGroup (d : PagedTable) (search : String) : List Filter :=
  d.targets.map fun column => ⟨column, .like, .single (.text search)⟩

theorem restriction_empty (d : PagedTable) : d.restriction "" = d.filters :=
  rfl

theorem restriction_of_ne_empty (d : PagedTable) {search : String}
    (h : search ≠ "") :
    d.restriction search = d.filters.anyOf (d.searchGroup search) := by
  have hsearch : ¬search.isEmpty = true := by simpa using h
  rw [restriction, if_neg hsearch]
  rfl

end GuardedSql.PagedTable
