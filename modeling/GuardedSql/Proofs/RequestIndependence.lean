import GuardedSql.Proofs.Plans
import GuardedSql.Proofs.SharedCore
import GuardedSql.Proofs.ValueIndependence

/-!
# What a request decides of a plan

A client chooses with a request whether it searches and by which listed column
it orders, and nothing else of the statements: the search text, the window and
the draw number are bound as arguments or not used at all, and an order by a
column that is not listed is no order.  Two requests that agree in these two
choices are planned alike.
-/

namespace GuardedSql

/-! ## Orders that are written -/

/-- The order that is written: the one asked for, if its column is an entry. -/
def Whitelist.effectiveOrder (wl : Whitelist) (order? : Option SortOrder) :
    Option SortOrder :=
  order?.filter fun order => decide (order.column ∈ wl.columns)

theorem orderText_effectiveOrder (wl : Whitelist) (order? : Option SortOrder) :
    orderText wl (wl.effectiveOrder order?) = orderText wl order? := by
  cases order? with
  | none => rfl
  | some order =>
      by_cases horder : order.column ∈ wl.columns
      · have hkept : wl.effectiveOrder (some order) = some order := by
          simp [Whitelist.effectiveOrder, horder]
        rw [hkept]
      · have hdropped : wl.effectiveOrder (some order) = none := by
          simp [Whitelist.effectiveOrder, horder]
        have hcolumn : ¬wl.hasColumn order.column = true :=
          fun h => horder (Whitelist.hasColumn_iff.mp h)
        rw [hdropped]
        exact (if_neg hcolumn).symm

theorem orderText_eq_empty_or (wl : Whitelist) (order? : Option SortOrder) :
    orderText wl order? = "" ∨
      ∃ order, order? = some order ∧ order.column ∈ wl.columns ∧
        orderText wl order? =
          "ORDER BY " ++ order.column ++ " " ++ order.direction.text := by
  cases order? with
  | none => exact .inl rfl
  | some order =>
      by_cases horder : wl.hasColumn order.column = true
      · have hcolumn := Whitelist.hasColumn_iff.mp horder
        exact .inr ⟨order, rfl, hcolumn, if_pos horder⟩
      · exact .inl (if_neg horder)

namespace Select

/-- A query is built the same with any order that is written the same. -/
theorem outcome_build_of_orderText_eq {wl : Whitelist} (q : Select)
    {order? : Option SortOrder}
    (h : orderText wl order? = orderText wl q.orderBy) :
    ({ q with orderBy := order? }.build wl).outcome = (q.build wl).outcome := by
  have hclauses : ({ q with orderBy := order? }.clauses wl).outcome =
      (q.clauses wl).outcome := by
    simp only [clauses, Audited.outcome_bind, outcome_orderClause, h]
  simp only [build, Audited.outcome_bind, hclauses]

theorem agree_build_of_orderText_eq {wl : Whitelist} {q q' : Select}
    (horder : orderText wl q.orderBy = orderText wl q'.orderBy)
    (hshape : q.SameShape { q' with orderBy := q.orderBy }) :
    Agree Statements.Alike (q.build wl).outcome (q'.build wl).outcome := by
  rw [← outcome_build_of_orderText_eq q' horder]
  exact hshape.agree_build wl

end Select

namespace PagedTable

/-! ## Requests that make the same choices -/

def Request.order? (r : Request) : Option SortOrder :=
  r.orderColumn.map fun column => ⟨column, r.orderDirection⟩

/-- Two requests make the same choices: both search or none does, and their
orders are the same as far as they are written. -/
structure Request.SameChoices (wl : Whitelist) (r r' : Request) : Prop where
  search : r.search = "" ↔ r'.search = ""
  order : wl.effectiveOrder r.order? = wl.effectiveOrder r'.order?

structure Plan.Alike (p p' : Plan) : Prop where
  total : p.total.Alike p'.total
  filtered : p.filtered.Alike p'.filtered
  data : p.data.Alike p'.data

theorem searchGroup_sameShape (d : PagedTable) {search search' : String}
    (h : search ≠ "") (h' : search' ≠ "") :
    List.Forall₂ Filter.SameShape (d.searchGroup search)
      (d.searchGroup search') := by
  have hblank : (Value.text search).isBlank = (Value.text search').isBlank := by
    have hempty := String.isEmpty_eq_false_iff.mpr h
    have hempty' := String.isEmpty_eq_false_iff.mpr h'
    exact hempty.trans hempty'.symm
  rw [searchGroup, searchGroup, List.forall₂_map_left_iff,
    List.forall₂_map_right_iff]
  exact List.forall₂_same.mpr fun column _ => ⟨rfl, rfl, .single hblank⟩

theorem restriction_sameShape (d : PagedTable) {search search' : String}
    (h : search = "" ↔ search' = "") :
    (d.restriction search).SameShape (d.restriction search') := by
  by_cases hsearch : search = ""
  · rw [hsearch, h.mp hsearch]
    exact Filters.SameShape.refl _
  · have hsearch' : search' ≠ "" := fun hempty => hsearch (h.mpr hempty)
    rw [d.restriction_of_ne_empty hsearch, d.restriction_of_ne_empty hsearch']
    have hfilters := Filters.SameShape.refl d.filters
    exact hfilters.anyOf (d.searchGroup_sameShape hsearch hsearch')

theorem agree_plan (d : PagedTable) {r r' : Request}
    (h : r.SameChoices d.whitelist r') :
    Agree Plan.Alike (d.plan r).outcome (d.plan r').outcome := by
  have hpage : Agree Select.Statements.Alike
      ((d.pageRows r).build d.whitelist).outcome
      ((d.pageRows r').build d.whitelist).outcome := by
    have horder : orderText d.whitelist r.order? =
        orderText d.whitelist r'.order? := by
      rw [← orderText_effectiveOrder, h.order, orderText_effectiveOrder]
    have hfilters := d.restriction_sameShape h.search
    exact Select.agree_build_of_orderText_eq horder
      ⟨rfl, rfl, hfilters, rfl, rfl, .nil, rfl⟩
  refine Agree.bind_same _ fun all => ?_
  refine hpage.bind ?_
  intro page page' halike
  exact .ok ⟨.refl _, halike.count, halike.data⟩

/-- The order of a request is left out, or it names a listed column. -/
theorem orderText_order? (wl : Whitelist) (r : Request) :
    orderText wl r.order? = "" ∨
      ∃ column, r.orderColumn = some column ∧ column ∈ wl.columns ∧
        orderText wl r.order? =
          "ORDER BY " ++ column ++ " " ++ r.orderDirection.text := by
  rcases orderText_eq_empty_or wl r.order? with
    hempty | ⟨order, horder, hcolumn, htext⟩
  · exact .inl hempty
  · obtain ⟨column, hrequested, rfl⟩ := Option.map_eq_some_iff.mp horder
    exact .inr ⟨column, hrequested, hcolumn, htext⟩

/-- Two requests that make the same choices are refused with the same error or
get statements with the same texts and equally many arguments.  What stands
between the core of the data statement and its window is empty or names a
listed column. -/
theorem plan_independent_of_request (d : PagedTable) :
    (∀ r r' : Request, r.SameChoices d.whitelist r' →
      Agree Plan.Alike (d.plan r).outcome (d.plan r').outcome) ∧
    ∀ (r : Request) (plan : Plan), (d.plan r).outcome = .ok plan →
      ∃ c, ((d.pageRows r).clauses d.whitelist).outcome = .ok c ∧
        plan.data.sql = "SELECT " ++ c.columns ++ " " ++ c.core.sql ++
          (if c.orderBy = "" then "" else " " ++ c.orderBy) ++
          " LIMIT ? OFFSET ?" ∧
        (c.orderBy = "" ∨
          ∃ column, r.orderColumn = some column ∧
            column ∈ d.whitelist.columns ∧
            c.orderBy =
              "ORDER BY " ++ column ++ " " ++ r.orderDirection.text) := by
  constructor
  · intro r r' h
    exact d.agree_plan h
  · intro r plan h
    obtain ⟨all, page, -, hpage, rfl⟩ := plan_eq_ok h
    obtain ⟨c, hc, rfl⟩ := Select.build_eq_ok hpage
    obtain ⟨joined, matching, hassembled⟩ := Select.exists_assembled hc
    have horder : c.orderBy = orderText d.whitelist r.order? :=
      hassembled.orderBy
    refine ⟨c, hc, hassembled.sql_data, ?_⟩
    rw [horder]
    exact orderText_order? d.whitelist r

/-- Two searches whose orders are not written, one of which names a column that
is not listed, and a search whose order is. -/
theorem plan_independent_of_request_search :
    let d : PagedTable :=
      { whitelist := .ofLists ["users"] ["id", "name"], table := "users" }
    let r : Request := { search := "ann", orderColumn := some "id; DROP" }
    let r' : Request :=
      { draw := 7, start := 100, length := -1, search := "' OR 1=1 --" }
    let ordered : Request :=
      { search := "ann", orderColumn := some "id", orderDirection := .descending }
    (∃ plan, (d.plan r).outcome = .ok plan) ∧
      r.SameChoices d.whitelist r' ∧
      Agree Plan.Alike (d.plan r).outcome (d.plan r').outcome ∧
      ∃ plan c, (d.plan ordered).outcome = .ok plan ∧
        ((d.pageRows ordered).clauses d.whitelist).outcome = .ok c ∧
        plan.data.sql = "SELECT " ++ c.columns ++ " " ++ c.core.sql ++
          (if c.orderBy = "" then "" else " " ++ c.orderBy) ++
          " LIMIT ? OFFSET ?" ∧
        "id" ∈ d.whitelist.columns ∧ c.orderBy = "ORDER BY id DESC" := by
  intro d r r' ordered
  have hchoices : r.SameChoices d.whitelist r' :=
    ⟨iff_of_false (by decide) (by decide), rfl⟩
  have hsearch : ∃ plan, (d.plan r).outcome = .ok plan := by
    unfold d r
    exact ⟨_, rfl⟩
  have hplan : ∃ plan, (d.plan ordered).outcome = .ok plan := by
    unfold d ordered
    exact ⟨_, rfl⟩
  obtain ⟨hagree, horder⟩ := plan_independent_of_request d
  obtain ⟨plan, hplan⟩ := hplan
  obtain ⟨c, hc, hsql, hempty | ⟨column, hrequested, hcolumn, htext⟩⟩ :=
    horder ordered plan hplan
  · obtain ⟨joined, matching, hassembled⟩ := Select.exists_assembled hc
    have hordered : orderText d.whitelist ordered.order? ≠ "" := by
      unfold d ordered
      decide
    exact absurd (hassembled.orderBy.symm.trans hempty) hordered
  · cases hrequested
    exact ⟨hsearch, hchoices, hagree r r' hchoices, plan, c, hplan, hc, hsql,
      hcolumn, htext⟩

end PagedTable

end GuardedSql
