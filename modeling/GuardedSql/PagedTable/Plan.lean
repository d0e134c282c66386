import GuardedSql.PagedTable.Request
import GuardedSql.Select

/-!
# Plans for pages

For each request three statements are planned: one for the number of all rows,
one for the number of rows that the search leaves, and one for the rows of the
page.
-/

namespace GuardedSql

/-- A table that is shown page by page.  The filters restrict every page, but
not the number of all rows.  A search text is looked for in the searched
columns; unless they are named, these are all columns that the whitelist allows
to search. -/
structure PagedTable where
  whitelist : Whitelist
  table : String
  columns : List String := []
  joins : List Join := []
  groupBy : Option String := none
  filters : Filters := .empty
  searched : Option (List String) := none

namespace PagedTable

structure Plan where
  total : Statement
  filtered : Statement
  data : Statement

/-- The columns in which a search text is looked for. -/
def targets (d : PagedTable) : List String :=
  d.searched.getD d.whitelist.searchable

/-- The filters of a table followed, if there is a search text, by the group
that looks for it in the searched columns. -/
def restriction (d : PagedTable) (search : String) : Filters :=
  if search.isEmpty then d.filters
  else
    d.filters.anyOf
      (d.targets.map fun column => ⟨column, .like, .single (.text search)⟩)

def allRows (d : PagedTable) : Select :=
  { table := d.table
    columns := d.columns
    joins := d.joins
    groupBy := d.groupBy.toList }

/-- The greatest number of rows of a page.  A negative length stands for all
rows, which is written as the greatest number there is. -/
def windowSize (length : Int64) : UInt64 :=
  if length < 0 then UInt64.ofNat (UInt64.size - 1) else length.toUInt64

/-- The query for the rows of a page. -/
def pageRows (d : PagedTable) (r : Request) : Select :=
  { d.allRows with
    filters := d.restriction r.search
    orderBy := r.orderColumn.map fun column => ⟨column, r.orderDirection⟩
    limit := windowSize r.length
    offset := r.start }

/-- The statements for the page that a request asks for. -/
def plan (d : PagedTable) (r : Request) : Audited BuildError Plan := do
  let all ← d.allRows.build d.whitelist
  let page ← (d.pageRows r).build d.whitelist
  return ⟨all.count, page.count, page.data⟩

end PagedTable

end GuardedSql
