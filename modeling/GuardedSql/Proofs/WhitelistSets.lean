import GuardedSql.Proofs.Changes
import GuardedSql.Proofs.WrittenForms

/-!
# Whitelists are sets of entries

A whitelist keeps its entries in the order in which they were allowed, but no
builder can tell.  Allowing more entries refuses less: an update or a deletion
that was built before is built again, and so is a query, unless its order was
left out.  Insertions may write more columns.
-/

namespace GuardedSql

namespace Whitelist

/-- The tables and columns of two whitelists are the same, in any order. -/
structure SameEntries (wl wl' : Whitelist) : Prop where
  tables : ∀ table, table ∈ wl.tables ↔ table ∈ wl'.tables
  columns : ∀ column, column ∈ wl.columns ↔ column ∈ wl'.columns

/-- The tables and columns of one whitelist are among those of another one. -/
structure IsWithin (wl wl' : Whitelist) : Prop where
  tables : ∀ table, table ∈ wl.tables → table ∈ wl'.tables
  columns : ∀ column, column ∈ wl.columns → column ∈ wl'.columns

end Whitelist

/-! ## The same entries -/

namespace Whitelist.SameEntries

variable {wl wl' : Whitelist} (h : wl.SameEntries wl')

include h

theorem hasTable_eq : wl.hasTable = wl'.hasTable := by
  funext table
  rw [Bool.eq_iff_iff, hasTable_iff, hasTable_iff]
  exact h.tables table

theorem hasColumn_eq : wl.hasColumn = wl'.hasColumn := by
  funext column
  rw [Bool.eq_iff_iff, hasColumn_iff, hasColumn_iff]
  exact h.columns column

theorem canSelect_eq : wl.canSelect = wl'.canSelect := by
  funext column
  rw [canSelect, canSelect, h.hasColumn_eq]

theorem canSearch_eq : wl.canSearch = wl'.canSearch := by
  funext column
  rw [Bool.eq_iff_iff, canSearch_iff, canSearch_iff]
  simp only [h.columns]

/-! Everything else asks the whitelist through one of these questions. -/

theorem checkTable_eq : wl.checkTable = wl'.checkTable := by
  funext table
  rw [checkTable, checkTable, h.hasTable_eq]

theorem allows_eq (use : ColumnUse) : wl.allows use = wl'.allows use := by
  cases use with
  | plain => exact h.hasColumn_eq
  | selected => exact h.canSelect_eq
  | searched => exact h.canSearch_eq

theorem checkColumn_eq : wl.checkColumn = wl'.checkColumn := by
  funext use column
  rw [checkColumn, checkColumn, h.allows_eq]

theorem checkColumns_eq : wl.checkColumns = wl'.checkColumns := by
  funext use columns
  rw [checkColumns, checkColumns, h.checkColumn_eq]

theorem conditionOf_eq :
    Predicate.conditionOf wl = Predicate.conditionOf wl' := by
  funext use f
  rw [Predicate.conditionOf, Predicate.conditionOf, h.checkColumn_eq]

theorem termOf_eq : Predicate.termOf wl = Predicate.termOf wl' := by
  funext c
  cases c with
  | filter f => rw [Predicate.termOf, Predicate.termOf, h.conditionOf_eq]
  | anyOf group => rw [Predicate.termOf, Predicate.termOf, h.conditionOf_eq]

theorem ofFilters_eq : Predicate.ofFilters wl = Predicate.ofFilters wl' := by
  funext fs
  rw [Predicate.ofFilters, Predicate.ofFilters, h.termOf_eq]

theorem whereClause_eq : whereClause wl = whereClause wl' := by
  funext fs
  rw [whereClause, whereClause, h.ofFilters_eq]

theorem havingClause_eq : havingClause wl = havingClause wl' := by
  funext fs
  rw [havingClause, havingClause, h.ofFilters_eq]

theorem joinClause_eq : joinClause wl = joinClause wl' := by
  have hcondition : Join.checkCondition wl = Join.checkCondition wl' := by
    funext on
    cases on with
    | raw text => rfl
    | columns left right =>
        rw [Join.checkCondition, Join.checkCondition, h.checkColumns_eq]
  have hcheck : Join.check wl = Join.check wl' := by
    funext j
    rw [Join.check, Join.check, h.checkTable_eq, hcondition]
  funext joins
  rw [joinClause, joinClause, hcheck]

theorem columnList_eq : columnList wl = columnList wl' := by
  funext columns
  rw [columnList, columnList, h.checkColumns_eq]

theorem groupClause_eq : groupClause wl = groupClause wl' := by
  funext columns
  rw [groupClause, groupClause, h.checkColumns_eq]

theorem orderClause_eq {ε : Type} (order? : Option SortOrder) :
    (orderClause wl order? : Audited ε String) = orderClause wl' order? := by
  cases order? with
  | none => rfl
  | some order => rw [orderClause, orderClause, h.hasColumn_eq]

theorem build_eq (q : Select) : q.build wl = q.build wl' := by
  have hclauses : q.clauses wl = q.clauses wl' := by
    simp only [Select.clauses, h.checkTable_eq, h.joinClause_eq,
      h.columnList_eq, h.whereClause_eq, h.groupClause_eq, h.havingClause_eq,
      h.orderClause_eq]
  rw [Select.build, Select.build, hclauses]

theorem insertRows_eq (table : String) (rows : List Record)
    (onDuplicate : List String) :
    insertRows wl table rows onDuplicate =
      insertRows wl' table rows onDuplicate := by
  have hcolumns : Insert.columnsOf wl = Insert.columnsOf wl' := by
    funext row
    rw [Insert.columnsOf, Insert.columnsOf, h.hasColumn_eq]
  have hfits : Insert.fits wl = Insert.fits wl' := by
    funext columns row
    rw [Insert.fits, Insert.fits, hcolumns]
  have hreplacement : Insert.replacement wl = Insert.replacement wl' := by
    funext columns onDuplicate
    rw [Insert.replacement, Insert.replacement, h.hasColumn_eq]
  have htext : Insert.text wl = Insert.text wl' := by
    funext table columns onDuplicate rows
    unfold Insert.text
    rw [hreplacement]
  unfold insertRows
  rw [h.checkTable_eq, hcolumns, hfits, htext]

theorem equalityClause_eq : equalityClause wl = equalityClause wl' := by
  funext conditions
  rw [equalityClause, equalityClause, h.checkColumns_eq]

theorem update_eq (table : String) (data conditions : Record) :
    update wl table data conditions = update wl' table data conditions := by
  rw [update, update, h.checkTable_eq, h.checkColumns_eq, h.equalityClause_eq]

theorem delete_eq (table : String) (conditions : Record) :
    delete wl table conditions = delete wl' table conditions := by
  rw [delete, delete, h.checkTable_eq, h.equalityClause_eq]

end Whitelist.SameEntries

/-! ## More entries -/

namespace Whitelist.IsWithin

theorem allowColumn (wl : Whitelist) (column : String) :
    wl.IsWithin (wl.allowColumn column) where
  tables _ htable := htable
  columns _ hcolumn := Identifiers.mem_insert.mpr (.inl hcolumn)

variable {wl wl' : Whitelist} (h : wl.IsWithin wl')

include h

theorem selectable {column : String} (hcolumn : wl.Selectable column) :
    wl'.Selectable column := by
  rcases hcolumn with hlisted | ⟨expression, halias, hlisted⟩
  · exact .inl (h.columns column hlisted)
  · exact .inr ⟨expression, halias, h.columns expression hlisted⟩

theorem searchable {column : String} (hcolumn : wl.Searchable column) :
    wl'.Searchable column := by
  obtain ⟨hplain, entry, hentry, hcolumn⟩ := hcolumn
  exact ⟨hplain, entry, h.columns entry hentry, hcolumn⟩

theorem criterion {c : Criterion} (hc : c.Acceptable wl) :
    c.Acceptable wl' := by
  cases c with
  | filter f =>
      obtain ⟨hcolumn, hfits⟩ := hc
      exact ⟨h.columns f.column hcolumn, hfits⟩
  | anyOf group =>
      intro f hf
      obtain ⟨hcolumn, hfits⟩ := hc f hf
      exact ⟨h.searchable hcolumn, hfits⟩

theorem acceptable {q : Select} (hq : q.Acceptable wl) : q.Acceptable wl' where
  table := h.tables q.table hq.table
  joinTables j hj := h.tables j.table (hq.joinTables j hj)
  joinColumns j hj left right hon := by
    obtain ⟨hleft, hright⟩ := hq.joinColumns j hj left right hon
    exact ⟨h.columns left hleft, h.columns right hright⟩
  columns column hcolumn := h.selectable (hq.columns column hcolumn)
  filters c hc := h.criterion (hq.filters c hc)
  groupBy column hcolumn := h.columns column (hq.groupBy column hcolumn)
  having c hc := h.criterion (hq.having c hc)

theorem orderText_eq {order? : Option SortOrder}
    (horder : ∀ order, order? = some order → order.column ∈ wl.columns) :
    orderText wl order? = orderText wl' order? := by
  cases order? with
  | none => rfl
  | some order =>
      have hcolumn := horder order rfl
      have hcolumn' := h.columns order.column hcolumn
      rw [orderText, orderText, if_pos (hasColumn_iff.mpr hcolumn),
        if_pos (hasColumn_iff.mpr hcolumn')]

theorem outcome_build_eq_ok {q : Select} {s : Select.Statements}
    (horder : ∀ order, q.orderBy = some order → order.column ∈ wl.columns)
    (hs : (q.build wl).outcome = .ok s) : (q.build wl').outcome = .ok s := by
  have hwritten : q.written wl = q.written wl' := by
    rw [Select.written, Select.written, h.orderText_eq horder]
  rw [Select.outcome_build_eq_ok_iff] at hs ⊢
  obtain ⟨hacceptable, rfl⟩ := hs
  rw [hwritten]
  exact ⟨h.acceptable hacceptable, rfl⟩

/-- A table, something that the whitelist has no part in, and columns: what an
update and a deletion demand. -/
theorem forall_demand {table : String} {other : Check BuildError}
    {columns : List String}
    (hall : ∀ check ∈ wl.tableCheck table :: other ::
      columns.map wl.columnCheck, check.demand) :
    ∀ check ∈ wl'.tableCheck table :: other :: columns.map wl'.columnCheck,
      check.demand := by
  simp only [List.forall_mem_cons, List.forall_mem_map] at hall ⊢
  obtain ⟨htable, hother, hcolumns⟩ := hall
  refine ⟨h.tables table htable, hother, ?_⟩
  intro column hcolumn
  exact h.columns column (hcolumns column hcolumn)

theorem outcome_update_eq_ok {table : String} {data conditions : Record}
    {s : Statement} (hs : (update wl table data conditions).outcome = .ok s) :
    (update wl' table data conditions).outcome = .ok s := by
  have hdecided := decidedBy_update wl table data conditions
  have hdecided' := decidedBy_update wl' table data conditions
  rw [hdecided.eq_ok_iff fun _ => update_eq_ok_entries] at hs
  rw [hdecided'.eq_ok_iff fun _ => update_eq_ok_entries]
  exact ⟨h.forall_demand hs.1, hs.2⟩

theorem outcome_delete_eq_ok {table : String} {conditions : Record}
    {s : Statement} (hs : (delete wl table conditions).outcome = .ok s) :
    (delete wl' table conditions).outcome = .ok s := by
  have hdecided := decidedBy_delete wl table conditions
  have hdecided' := decidedBy_delete wl' table conditions
  rw [hdecided.eq_ok_iff fun _ => delete_eq_ok_entries] at hs
  rw [hdecided'.eq_ok_iff fun _ => delete_eq_ok_entries]
  exact ⟨h.forall_demand hs.1, hs.2⟩

end Whitelist.IsWithin

/-! ## Whitelists -/

/-- Whitelists with the same entries cannot be told apart.  A whitelist with
more entries builds the updates, the deletions and the queries that were built
before, of the queries those without an order that was left out. -/
theorem whitelists_act_as_sets (wl wl' : Whitelist) :
    (wl.SameEntries wl' →
      (∀ q : Select, q.build wl = q.build wl') ∧
      (∀ table rows onDuplicate, insertRows wl table rows onDuplicate =
        insertRows wl' table rows onDuplicate) ∧
      (∀ table data conditions, update wl table data conditions =
        update wl' table data conditions) ∧
      ∀ table conditions,
        delete wl table conditions = delete wl' table conditions) ∧
    (wl.IsWithin wl' →
      (∀ table data conditions s,
        (update wl table data conditions).outcome = .ok s →
          (update wl' table data conditions).outcome = .ok s) ∧
      (∀ table conditions s, (delete wl table conditions).outcome = .ok s →
        (delete wl' table conditions).outcome = .ok s) ∧
      ∀ (q : Select) (s : Select.Statements),
        (∀ order, q.orderBy = some order → order.column ∈ wl.columns) →
          (q.build wl).outcome = .ok s → (q.build wl').outcome = .ok s) := by
  constructor
  · intro h
    exact ⟨h.build_eq, h.insertRows_eq, h.update_eq, h.delete_eq⟩
  · intro h
    refine ⟨?_, ?_, ?_⟩
    · intro table data conditions s hs
      exact h.outcome_update_eq_ok hs
    · intro table conditions s hs
      exact h.outcome_delete_eq_ok hs
    · intro q s horder hs
      exact h.outcome_build_eq_ok horder hs

/-- The order of the entries does not matter to a search that one of them is an
alias of, and one more entry does not change what was built before. -/
theorem whitelists_act_as_sets_reordered :
    let wl := Whitelist.ofLists ["users"] ["users.name AS name", "age"]
    let reordered := Whitelist.ofLists ["users"] ["age", "users.name AS name"]
    let grown := wl.allowColumn "users.name"
    let q : Select :=
      { table := "users", columns := ["age AS years"],
        filters := Filters.empty.anyOf
          [⟨"users.name", .like, .single (.text "ann")⟩],
        orderBy := some ⟨"age", .descending⟩ }
    let conditions : Record := .ofList [("age", .int 30)]
    let data : Statement :=
      ⟨"SELECT age AS years FROM users WHERE 1=1 AND (users.name LIKE ?)" ++
          " ORDER BY age DESC LIMIT ? OFFSET ?",
        [.text "%ann%", .uint 10, .uint 0]⟩
    let count : Statement :=
      ⟨"SELECT COUNT(1) AS total FROM users WHERE 1=1 AND (users.name LIKE ?)",
        [.text "%ann%"]⟩
    let deletion : Statement :=
      ⟨"DELETE FROM users WHERE 1=1 AND age = ?", [.int 30]⟩
    wl.SameEntries reordered ∧ q.build reordered = q.build wl ∧
      wl.IsWithin grown ∧ (q.build grown).outcome = .ok ⟨data, count⟩ ∧
      (delete grown "users" conditions).outcome = .ok deletion := by
  intro wl reordered grown q conditions data count deletion
  have hsame : wl.SameEntries reordered := by
    constructor
    · exact fun table => Iff.rfl
    · intro column
      change column ∈ Identifiers.ofList _ ↔ column ∈ Identifiers.ofList _
      rw [Identifiers.mem_ofList, Identifiers.mem_ofList]
      exact (List.Perm.swap _ _ _).mem_iff
  have hgrown : wl.IsWithin grown := .allowColumn wl "users.name"
  have hlisted : "age" ∈ wl.columns := by decide
  obtain ⟨-, hdelete, hbuild⟩ := (whitelists_act_as_sets wl grown).2 hgrown
  refine ⟨hsame, ?_, hgrown, ?_, ?_⟩
  · exact (((whitelists_act_as_sets wl reordered).1 hsame).1 q).symm
  · apply hbuild q
    · rintro order ⟨⟩
      exact hlisted
    · rfl
  · exact hdelete "users" conditions deletion rfl

example :
    let wl := Whitelist.ofLists ["users"] ["id"]
    let row : Record := .ofList [("id", .int 1), ("age", .int 30)]
    (insertRow wl "users" row []).outcome =
        .ok ⟨"INSERT INTO users (id) VALUES (?)", [.int 1]⟩ ∧
      (insertRow (wl.allowColumn "age") "users" row []).outcome =
        .ok ⟨"INSERT INTO users (id, age) VALUES (?, ?)", [.int 1, .int 30]⟩ :=
  ⟨rfl, rfl⟩

end GuardedSql
