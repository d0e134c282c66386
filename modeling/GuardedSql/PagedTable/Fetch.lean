import GuardedSql.PagedTable.Session

/-!
# Fetching pages

The three statements of a plan are run in one session.  The page that comes of
it repeats the draw number of its request, by which a client tells late answers
from current ones.
-/

namespace GuardedSql.PagedTable

/-- A page of a table, with the number of all rows and of the rows that the
search leaves. -/
structure Page where
  draw : UInt64
  total : UInt64
  filtered : UInt64
  rows : List Row

def Page.toJson (p : Page) : Json :=
  .obj [("draw", .int p.draw.toNat), ("recordsTotal", .int p.total.toNat),
    ("recordsFiltered", .int p.filtered.toNat), ("data", .arr (p.rows.map .obj))]

/-- The session that fetches the page that a request asks for. -/
def fetchSession {ε : Type} (d : PagedTable) (source : Source ε) (r : Request) :
    Session ε Page := do
  let plan ← Session.ofAudited (d.plan r)
  let total := totalOf (← Session.ask source plan.total)
  let filtered := totalOf (← Session.ask source plan.filtered)
  let rows ← Session.ask source plan.data
  Session.report (.pageFetched d.table r.draw total filtered rows.length)
  return ⟨r.draw, total, filtered, rows⟩

/-- Fetches the page that a request asks for from a source that has not been
asked anything yet. -/
def fetch {ε : Type} (d : PagedTable) (source : Source ε) (r : Request) :
    Run ε Page :=
  d.fetchSession source r []

end GuardedSql.PagedTable
