import GuardedSql.Proofs.Aliases
import GuardedSql.Proofs.Checks
import GuardedSql.Proofs.Results

/-!
# Which queries are accepted

A query is accepted when its names are allowed for the use that is made of them
and the value of each filter fits its operator, skipped filters included.
`Select.Acceptable` says so of the whole query, and `Select.checks` lists the
demands in the order in which they are made.  A query that is not accepted is
refused with the error of the first demand that it does not meet.
-/

namespace GuardedSql

/-! ## Values that fit their operator -/

def Operand.size : Operand → Nat
  | .absent => 0
  | .single _ => 1
  | .list vs => vs.length

/-- The value of a filter fits its operator: a list for a choice, a list of two
for a range, and no list for a comparison. -/
def Filter.Fits (f : Filter) : Prop :=
  match f.operator with
  | .inList => ∃ vs, f.operand = .list vs
  | .between => ∃ low high, f.operand = .list [low, high]
  | _ => ∀ vs, f.operand ≠ .list vs

/-- The error of a filter whose value does not fit its operator. -/
def Filter.misfit (f : Filter) : BuildError :=
  match f.operator with
  | .between => .betweenArity f.operand.size
  | _ => .valueShape f.column f.operator

/-! ## Demands -/

namespace Whitelist

def tableCheck (wl : Whitelist) (table : String) : Check BuildError :=
  ⟨table ∈ wl.tables, .tableNotAllowed table⟩

def columnCheck (wl : Whitelist) (column : String) : Check BuildError :=
  ⟨column ∈ wl.columns, .columnNotAllowed column⟩

def selectCheck (wl : Whitelist) (column : String) : Check BuildError :=
  ⟨wl.Selectable column, .columnNotAllowed column⟩

/-- The column of a member of a group has to be searchable. -/
def searchCheck (wl : Whitelist) (column : String) : Check BuildError :=
  ⟨wl.Searchable column, .columnNotAllowed column⟩

end Whitelist

/-- The value of a filter has to fit its operator. -/
def Filter.valueCheck (f : Filter) : Check BuildError :=
  ⟨f.Fits, f.misfit⟩

/-- The demands on a join: its table, then the columns that it compares. -/
def Join.checks (wl : Whitelist) (j : Join) : List (Check BuildError) :=
  wl.tableCheck j.table ::
    match j.on with
    | .raw _ => []
    | .columns left right => [wl.columnCheck left, wl.columnCheck right]

/-- The demands on a criterion: of each filter the column before the value. -/
def Criterion.checks (wl : Whitelist) : Criterion → List (Check BuildError)
  | .filter f => [wl.columnCheck f.column, f.valueCheck]
  | .anyOf group =>
    group.flatMap fun f => [wl.searchCheck f.column, f.valueCheck]

def Filters.checks (wl : Whitelist) (fs : Filters) : List (Check BuildError) :=
  fs.criteria.flatMap (Criterion.checks wl)

/-- The demands on a query, in the order in which they are made. -/
def Select.checks (wl : Whitelist) (q : Select) : List (Check BuildError) :=
  wl.tableCheck q.table :: q.joins.flatMap (Join.checks wl) ++
    q.columns.map wl.selectCheck ++ q.filters.checks wl ++
    q.groupBy.map wl.columnCheck ++ q.having.checks wl

/-! ## Acceptable queries -/

/-- The columns of a criterion are allowed and its values fit. -/
def Criterion.Acceptable (wl : Whitelist) : Criterion → Prop
  | .filter f => f.column ∈ wl.columns ∧ f.Fits
  | .anyOf group => ∀ f ∈ group, wl.Searchable f.column ∧ f.Fits

/-- The tables and columns of a query are allowed and the values of its filters
fit. -/
structure Select.Acceptable (wl : Whitelist) (q : Select) : Prop where
  table : q.table ∈ wl.tables
  joinTables : ∀ j ∈ q.joins, j.table ∈ wl.tables
  joinColumns : ∀ j ∈ q.joins, ∀ left right, j.on = .columns left right →
    left ∈ wl.columns ∧ right ∈ wl.columns
  columns : ∀ column ∈ q.columns, wl.Selectable column
  filters : ∀ c ∈ q.filters.criteria, c.Acceptable wl
  groupBy : ∀ column ∈ q.groupBy, column ∈ wl.columns
  having : ∀ c ∈ q.having.criteria, c.Acceptable wl

theorem Criterion.acceptable_iff {wl : Whitelist} {c : Criterion} :
    c.Acceptable wl ↔ ∀ check ∈ c.checks wl, check.demand := by
  cases c with
  | filter f =>
      constructor
      · rintro ⟨hcolumn, hfits⟩ check hcheck
        rcases List.mem_pair.mp hcheck with rfl | rfl
        · exact hcolumn
        · exact hfits
      · intro h
        have hcolumn := h (wl.columnCheck f.column) List.mem_cons_self
        have hfits := h f.valueCheck (List.mem_pair.mpr (.inr rfl))
        exact ⟨hcolumn, hfits⟩
  | anyOf group =>
      constructor
      · intro h check hcheck
        obtain ⟨f, hf, hcheck⟩ := List.mem_flatMap.mp hcheck
        obtain ⟨hcolumn, hfits⟩ := h f hf
        rcases List.mem_pair.mp hcheck with rfl | rfl
        · exact hcolumn
        · exact hfits
      · intro h f hf
        have hcolumn := h (wl.searchCheck f.column)
          (List.mem_flatMap.mpr ⟨f, hf, List.mem_cons_self⟩)
        have hfits := h f.valueCheck
          (List.mem_flatMap.mpr ⟨f, hf, List.mem_pair.mpr (.inr rfl)⟩)
        exact ⟨hcolumn, hfits⟩

theorem Filters.forall_acceptable_iff {wl : Whitelist} {fs : Filters} :
    (∀ c ∈ fs.criteria, c.Acceptable wl) ↔
      ∀ check ∈ fs.checks wl, check.demand := by
  unfold checks
  constructor
  · intro h check hcheck
    obtain ⟨c, hc, hcheck⟩ := List.mem_flatMap.mp hcheck
    exact Criterion.acceptable_iff.mp (h c hc) check hcheck
  · intro h c hc
    apply Criterion.acceptable_iff.mpr
    intro check hcheck
    exact h check (List.mem_flatMap.mpr ⟨c, hc, hcheck⟩)

theorem Join.forall_demand_iff {wl : Whitelist} {j : Join} :
    (∀ check ∈ j.checks wl, check.demand) ↔
      j.table ∈ wl.tables ∧ ∀ left right, j.on = .columns left right →
        left ∈ wl.columns ∧ right ∈ wl.columns := by
  unfold checks
  rw [List.forall_mem_cons]
  refine and_congr Iff.rfl ?_
  cases j.on with
  | raw text => simp
  | columns left right =>
      simp [Whitelist.columnCheck]

theorem Select.acceptable_iff {wl : Whitelist} {q : Select} :
    q.Acceptable wl ↔ ∀ check ∈ q.checks wl, check.demand := by
  unfold checks
  simp only [List.cons_append, List.forall_mem_cons, List.forall_mem_append,
    List.forall_mem_flatMap, List.forall_mem_map, Join.forall_demand_iff,
    ← Filters.forall_acceptable_iff]
  constructor
  · intro h
    refine ⟨h.table, ⟨⟨⟨?_, h.columns⟩, h.filters⟩, h.groupBy⟩, h.having⟩
    intro j hj
    exact ⟨h.joinTables j hj, h.joinColumns j hj⟩
  · rintro ⟨htable, ⟨⟨⟨hjoins, hcolumns⟩, hfilters⟩, hgroupBy⟩, hhaving⟩
    exact {
      table := htable
      joinTables := fun j hj => (hjoins j hj).1
      joinColumns := fun j hj => (hjoins j hj).2
      columns := hcolumns
      filters := hfilters
      groupBy := hgroupBy
      having := hhaving }

/-! ## The checks of the builders -/

theorem Whitelist.decidedBy_checkTable (wl : Whitelist) (table : String) :
    DecidedBy (wl.checkTable table).outcome [wl.tableCheck table] := by
  rw [outcome_checkTable]
  apply DecidedBy.of_check
  · intro h
    exact ⟨(), if_pos (hasTable_iff.mpr h)⟩
  · intro h
    exact if_neg fun htable => h (hasTable_iff.mp htable)

theorem Whitelist.decidedBy_checkColumn (wl : Whitelist) (use : ColumnUse)
    {column : String} {demand : Prop}
    (hdemand : wl.allows use column = true ↔ demand) :
    DecidedBy (wl.checkColumn use column).outcome
      [⟨demand, .columnNotAllowed column⟩] := by
  rw [outcome_checkColumn]
  apply DecidedBy.of_check
  · intro h
    exact ⟨(), if_pos (hdemand.mpr h)⟩
  · intro h
    exact if_neg fun hallows => h (hdemand.mp hallows)

theorem Whitelist.decidedBy_checkColumns (wl : Whitelist) (use : ColumnUse)
    (check : String → Check BuildError)
    (hcheck : ∀ column,
      DecidedBy (wl.checkColumn use column).outcome [check column])
    (columns : List String) :
    DecidedBy (wl.checkColumns use columns).outcome (columns.map check) := by
  rw [List.map_eq_flatMap]
  apply DecidedBy.forM
  intro column _
  exact hcheck column

/-- A single value, blank or not, fits every operator that takes no list. -/
theorem Filter.exists_condition?_single (column : String) {operator : Operator}
    (hoperator : operator.expectsList = false) (v : Value) :
    ∃ c?, (⟨column, operator, .single v⟩ : Filter).condition? = .ok c? := by
  unfold condition? test?
  cases hblank : v.isBlank with
  | true =>
      refine ⟨none, ?_⟩
      simp only [hoperator, Operand.isBlank, hblank]
      rfl
  | false =>
      simp only [hoperator, Operand.isBlank, hblank]
      cases operator with
      | inList => cases hoperator
      | between => cases hoperator
      | _ => exact ⟨_, rfl⟩

theorem Filter.exists_condition?_of_fits {f : Filter} (h : f.Fits) :
    ∃ c?, f.condition? = .ok c? := by
  obtain ⟨column, operator, operand⟩ := f
  cases operator with
  | inList =>
      obtain ⟨vs, rfl⟩ := h
      exact ⟨_, rfl⟩
  | between =>
      obtain ⟨low, high, rfl⟩ := h
      exact ⟨_, rfl⟩
  | _ =>
      cases operand with
      | absent => exact ⟨none, rfl⟩
      | single v => exact exists_condition?_single column rfl v
      | list vs => exact absurd rfl (h vs)

theorem Filter.condition?_of_not_fits {f : Filter} (h : ¬f.Fits) :
    f.condition? = .error f.misfit := by
  obtain ⟨column, operator, operand⟩ := f
  cases operator with
  | inList =>
      cases operand with
      | list vs => exact absurd ⟨vs, rfl⟩ h
      | _ => rfl
  | between =>
      match operand with
      | .absent => rfl
      | .single _ => rfl
      | .list [] => rfl
      | .list [_] => rfl
      | .list [low, high] => exact absurd ⟨low, high, rfl⟩ h
      | .list (_ :: _ :: _ :: _) => rfl
  | _ =>
      cases operand with
      | list vs => rfl
      | _ =>
          exfalso
          apply h
          intro vs hvs
          cases hvs

theorem Filter.decidedBy_condition? (f : Filter) :
    DecidedBy f.condition? [f.valueCheck] :=
  .of_check exists_condition?_of_fits condition?_of_not_fits

theorem Predicate.decidedBy_conditionOf (wl : Whitelist) (use : ColumnUse)
    {f : Filter} {demand : Prop}
    (hdemand : wl.allows use f.column = true ↔ demand) :
    DecidedBy (conditionOf wl use f).outcome
      [⟨demand, .columnNotAllowed f.column⟩, f.valueCheck] := by
  have hcolumn := wl.decidedBy_checkColumn use hdemand
  exact hcolumn.bind fun _ _ => f.decidedBy_condition?

theorem Predicate.decidedBy_termOf (wl : Whitelist) (c : Criterion) :
    DecidedBy (termOf wl c).outcome (c.checks wl) := by
  cases c with
  | filter f =>
      apply DecidedBy.bind_pure
      exact decidedBy_conditionOf wl .plain Whitelist.hasColumn_iff
  | anyOf group =>
      apply DecidedBy.bind_pure
      apply DecidedBy.mapM
      intro f _
      exact decidedBy_conditionOf wl .searched
        Whitelist.canSearch_iff_searchable

theorem Predicate.decidedBy_ofFilters (wl : Whitelist) (fs : Filters) :
    DecidedBy (ofFilters wl fs).outcome (fs.checks wl) := by
  apply DecidedBy.bind_pure
  apply DecidedBy.mapM
  intro c _
  exact decidedBy_termOf wl c

theorem decidedBy_whereClause (wl : Whitelist) (fs : Filters) :
    DecidedBy (whereClause wl fs).outcome (fs.checks wl) :=
  (Predicate.decidedBy_ofFilters wl fs).bind_pure _

/-- A list without filters makes no demands, so it does not matter that the
clause is left out for it. -/
theorem decidedBy_havingClause (wl : Whitelist) (fs : Filters) :
    DecidedBy (havingClause wl fs).outcome (fs.checks wl) := by
  unfold havingClause
  split
  · rename_i hempty
    have hchecks : fs.checks wl = [] := by
      unfold Filters.checks
      rw [List.isEmpty_iff.mp hempty, List.flatMap_nil]
    rw [hchecks]
    exact .pure _
  · exact (Predicate.decidedBy_ofFilters wl fs).bind_pure _

theorem Join.decidedBy_check (wl : Whitelist) (j : Join) :
    DecidedBy (j.check wl).outcome (j.checks wl) := by
  have htable := wl.decidedBy_checkTable j.table
  refine htable.bind fun _ _ => ?_
  cases j.on with
  | raw text => exact .pure ()
  | columns left right =>
      exact wl.decidedBy_checkColumns .plain wl.columnCheck
        (fun column => wl.decidedBy_checkColumn .plain Whitelist.hasColumn_iff)
        [left, right]

theorem decidedBy_joinClause (wl : Whitelist) (joins : List Join) :
    DecidedBy (joinClause wl joins).outcome
      (joins.flatMap (Join.checks wl)) := by
  apply DecidedBy.bind_pure
  apply DecidedBy.forM
  intro j _
  exact j.decidedBy_check wl

theorem decidedBy_columnList (wl : Whitelist) (columns : List String) :
    DecidedBy (columnList wl columns).outcome (columns.map wl.selectCheck) := by
  unfold columnList
  split
  · rename_i hempty
    rw [List.isEmpty_iff.mp hempty]
    exact .pure _
  · apply DecidedBy.bind_pure
    apply wl.decidedBy_checkColumns
    intro column
    exact wl.decidedBy_checkColumn .selected Whitelist.canSelect_iff_selectable

theorem decidedBy_groupClause (wl : Whitelist) (columns : List String) :
    DecidedBy (groupClause wl columns).outcome
      (columns.map wl.columnCheck) := by
  unfold groupClause
  split
  · rename_i hempty
    rw [List.isEmpty_iff.mp hempty]
    exact .pure _
  · apply DecidedBy.bind_pure
    apply wl.decidedBy_checkColumns
    intro column
    exact wl.decidedBy_checkColumn .plain Whitelist.hasColumn_iff

theorem decidedBy_orderClause (wl : Whitelist) (order? : Option SortOrder) :
    DecidedBy (orderClause wl order? : Audited BuildError String).outcome
      [] := by
  rw [outcome_orderClause]
  exact .pure _

/-! ## Queries -/

theorem Select.decidedBy_clauses (wl : Whitelist) (q : Select) :
    DecidedBy (q.clauses wl).outcome (q.checks wl) := by
  have hchecks : q.checks wl =
      [wl.tableCheck q.table] ++ (q.joins.flatMap (Join.checks wl) ++
        (q.columns.map wl.selectCheck ++ (q.filters.checks wl ++
          (q.groupBy.map wl.columnCheck ++ q.having.checks wl)))) := by
    unfold checks
    simp only [List.cons_append, List.nil_append, List.append_assoc]
  rw [hchecks]
  have htable := wl.decidedBy_checkTable q.table
  have hjoins := decidedBy_joinClause wl q.joins
  have hcolumns := decidedBy_columnList wl q.columns
  have hfilters := decidedBy_whereClause wl q.filters
  have hgroupBy := decidedBy_groupClause wl q.groupBy
  have hhaving := decidedBy_havingClause wl q.having
  have horderBy := decidedBy_orderClause wl q.orderBy
  unfold clauses
  refine htable.bind fun _ _ => ?_
  refine hjoins.bind fun joins _ => ?_
  refine hcolumns.bind fun columns _ => ?_
  refine hfilters.bind fun conditions _ => ?_
  refine hgroupBy.bind fun groupBy _ => ?_
  rw [← List.append_nil (q.having.checks wl)]
  refine hhaving.bind fun having _ => ?_
  exact horderBy.bind_pure _

theorem Select.decidedBy_build (wl : Whitelist) (q : Select) :
    DecidedBy (q.build wl).outcome (q.checks wl) := by
  rw [← List.append_nil (q.checks wl)]
  refine (q.decidedBy_clauses wl).bind fun c _ => ?_
  exact DecidedBy.pure (⟨c.data, c.count⟩ : Select.Statements)

/-- A query is built exactly when it is acceptable, and otherwise it is refused
with the error of the first demand that it does not meet.  Its order and its
window change neither. -/
theorem select_accepted_iff_acceptable (wl : Whitelist) (q : Select) :
    ((∃ s, (q.build wl).outcome = .ok s) ↔ q.Acceptable wl) ∧
      (∀ e, (q.build wl).outcome = .error e ↔
        FirstViolated (q.checks wl) e) ∧
      ∀ orderBy limit offset,
        Agree (fun _ _ => True) (q.build wl).outcome
          ({ q with orderBy, limit, offset }.build wl).outcome := by
  have hdecided := q.decidedBy_build wl
  refine ⟨?_, ?_, ?_⟩
  · rw [Select.acceptable_iff]
    exact hdecided.isOk_iff
  · intro e
    exact hdecided.eq_error_iff
  · intro orderBy limit offset
    exact hdecided.agree
      (Select.decidedBy_build wl { q with orderBy, limit, offset })

example :
    let wl := Whitelist.ofLists ["t"] ["id"]
    let skipped : Filter := ⟨"name", .equal, .absent⟩
    let q : Select :=
      { table := "t", filters := .ofList [skipped], groupBy := ["age"] }
    (q.build wl).outcome = .error (.columnNotAllowed "name") := rfl

end GuardedSql
