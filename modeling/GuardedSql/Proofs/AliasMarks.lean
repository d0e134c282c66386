import GuardedSql.Proofs.Acceptance
import GuardedSql.Proofs.Alignment

/-!
# Question marks in aliases

A whitelist checks every name that a query writes, with one exception: of an
item of the select list under an alias only the expression is looked up, and
the alias is written as it is requested.  When neither the whitelist nor a raw
text contains a question mark, the count of a query is aligned, and its data
statement is misaligned by the question marks in the requested aliases.
-/

namespace GuardedSql

/-- A name is the alias of an item: the text after the first ` AS ` in it. -/
def IsAliasOf (name item : String) : Prop :=
  ∃ expression, IsExpressionOf expression item ∧
    item = expression ++ " AS " ++ name

/-- No entry of a whitelist contains a question mark. -/
structure Whitelist.Unmarked (wl : Whitelist) : Prop where
  tables : ∀ table, table ∈ wl.tables → '?' ∉ table.toList
  columns : ∀ column, column ∈ wl.columns → '?' ∉ column.toList

theorem Whitelist.unmarked_ofLists {tables columns : List String}
    (htables : ∀ table ∈ tables, '?' ∉ table.toList)
    (hcolumns : ∀ column ∈ columns, '?' ∉ column.toList) :
    (ofLists tables columns).Unmarked := by
  constructor
  · intro table htable
    exact htables table (Identifiers.mem_ofList.mp htable)
  · intro column hcolumn
    exact hcolumns column (Identifiers.mem_ofList.mp hcolumn)

/-- The raw text of a join, if it has one, contains no question mark. -/
def Join.Unmarked (j : Join) : Prop :=
  ∀ text, j.on = .raw text → '?' ∉ text.toList

theorem mark_mem_aliased {expression name : String} :
    '?' ∈ (expression ++ " AS " ++ name).toList ↔
      '?' ∈ expression.toList ∨ '?' ∈ name.toList := by
  have hseparator : '?' ∉ " AS ".toList := by decide
  simp only [String.toList_append, List.mem_append, hseparator, or_false]

/-! ## Names that are checked -/

section

variable {wl : Whitelist} {q : Select}

/-- A searched column is an entry or the beginning of one. -/
theorem Whitelist.Unmarked.searchable (hwl : wl.Unmarked) {column : String}
    (h : wl.Searchable column) : '?' ∉ column.toList := by
  obtain ⟨-, entry, hentry, hexpression | ⟨rfl, -⟩⟩ := h
  · obtain ⟨name, rfl⟩ := hexpression.eq_append
    intro hmark
    exact hwl.columns _ hentry (mark_mem_aliased.mpr (.inl hmark))
  · exact hwl.columns entry hentry

theorem Criterion.Acceptable.names_unmarked {c : Criterion}
    (h : c.Acceptable wl) (hwl : wl.Unmarked) :
    ∀ name ∈ c.names, '?' ∉ name.toList := by
  intro name hname
  obtain ⟨f, hf, rfl⟩ := List.mem_map.mp hname
  have hmember := (List.mem_filter.mp hf).1
  cases c with
  | filter g =>
      rw [List.mem_singleton.mp hmember]
      exact hwl.columns _ h.1
  | anyOf group =>
      exact hwl.searchable (h f hmember).1

theorem Filters.names_unmarked {fs : Filters}
    (h : ∀ c ∈ fs.criteria, c.Acceptable wl) (hwl : wl.Unmarked) :
    ∀ name ∈ fs.names, '?' ∉ name.toList := by
  intro name hname
  obtain ⟨c, hc, hname⟩ := List.mem_flatMap.mp hname
  exact (h c hc).names_unmarked hwl name hname

theorem Select.Acceptable.joinNames_unmarked (h : q.Acceptable wl)
    (hwl : wl.Unmarked) (hraw : ∀ j ∈ q.joins, j.Unmarked) :
    ∀ name ∈ q.joins.flatMap Join.names, '?' ∉ name.toList := by
  intro name hname
  obtain ⟨j, hj, hname⟩ := List.mem_flatMap.mp hname
  rcases List.mem_cons.mp hname with rfl | hcondition
  · exact hwl.tables _ (h.joinTables j hj)
  · cases hon : j.on with
    | raw text =>
        rw [hon] at hcondition
        rw [List.mem_singleton.mp hcondition]
        exact hraw j hj text hon
    | columns left right =>
        rw [hon] at hcondition
        obtain ⟨hleft, hright⟩ := h.joinColumns j hj left right hon
        rcases List.mem_pair.mp hcondition with rfl | rfl
        · exact hwl.columns _ hleft
        · exact hwl.columns _ hright

/-- What both statements range over is written with checked names only. -/
theorem Select.Acceptable.names_unmarked (h : q.Acceptable wl)
    (hwl : wl.Unmarked) (hraw : ∀ j ∈ q.joins, j.Unmarked) :
    ∀ name ∈ q.names, '?' ∉ name.toList := by
  have htable := hwl.tables q.table h.table
  have hjoins := h.joinNames_unmarked hwl hraw
  have hfilters := Filters.names_unmarked h.filters hwl
  have hgroupBy : ∀ column ∈ q.groupBy, '?' ∉ column.toList :=
    fun column hcolumn => hwl.columns column (h.groupBy column hcolumn)
  have hhaving := Filters.names_unmarked h.having hwl
  simp only [names, List.cons_append, List.forall_mem_cons,
    List.forall_mem_append]
  exact ⟨htable, ⟨⟨hjoins, hfilters⟩, hgroupBy⟩, hhaving⟩

theorem orderNames_unmarked (hwl : wl.Unmarked) (order? : Option SortOrder) :
    ∀ name ∈ orderNames wl order?, '?' ∉ name.toList := by
  intro name hname
  cases order? with
  | none => exact absurd hname List.not_mem_nil
  | some order =>
      by_cases horder : order.column ∈ wl.columns
      · rw [orderNames, if_pos horder] at hname
        rw [List.mem_singleton.mp hname]
        exact hwl.columns _ horder
      · rw [orderNames, if_neg horder] at hname
        exact absurd hname List.not_mem_nil

/-! ## Requested columns -/

/-- A requested column has the question marks of its alias. -/
theorem Whitelist.Unmarked.selectable_iff (hwl : wl.Unmarked) {column : String}
    (h : wl.Selectable column) :
    '?' ∉ column.toList ↔ ∀ name, IsAliasOf name column → '?' ∉ name.toList := by
  constructor
  · rintro hcolumn name ⟨expression, -, rfl⟩ hname
    exact hcolumn (mark_mem_aliased.mpr (.inr hname))
  · intro hnames
    rcases h with hentry | ⟨expression, hexpression, hentry⟩
    · exact hwl.columns column hentry
    · obtain ⟨name, hitem⟩ := hexpression.eq_append
      have hname := hnames name ⟨expression, hexpression, hitem⟩
      rw [hitem, mark_mem_aliased]
      rintro (hmark | hmark)
      · exact hwl.columns expression hentry hmark
      · exact hname hmark

theorem Text.marksIn_eq_zero_iff {texts : List String} :
    marksIn texts = 0 ↔ ∀ s ∈ texts, '?' ∉ s.toList := by
  constructor
  · intro h s hs
    have hmarks := List.sum_eq_zero_iff_forall_eq_nat.mp h
    exact marks_eq_zero_iff.mp (hmarks (marks s) (List.mem_map_of_mem hs))
  · exact marksIn_eq_zero

end

/-- With a whitelist and raw texts that contain no question marks, the count is
aligned, and the data statement is aligned exactly when the requested aliases
contain none either. -/
theorem data_aligned_iff_aliases_unmarked {wl : Whitelist} {q : Select}
    {s : Select.Statements} (hwl : wl.Unmarked)
    (hraw : ∀ j ∈ q.joins, j.Unmarked) (h : (q.build wl).outcome = .ok s) :
    s.count.placeholders = s.count.args.length ∧
      s.data.placeholders = s.data.args.length + Text.marksIn q.columns ∧
      (s.data.placeholders = s.data.args.length ↔
        ∀ column ∈ q.columns, ∀ name, IsAliasOf name column →
          '?' ∉ name.toList) := by
  have hq : q.Acceptable wl :=
    Select.acceptable_iff.mpr ((q.decidedBy_build wl).isOk_iff.mp ⟨s, h⟩)
  obtain ⟨hdata, hcount⟩ := Select.aligned_build h
  have hnames := hq.names_unmarked hwl hraw
  have horder := orderNames_unmarked hwl q.orderBy
  have hmarks : s.data.placeholders =
      s.data.args.length + Text.marksIn q.columns := by
    rw [hdata, Text.marksIn_append, Text.marksIn_append,
      Text.marksIn_eq_zero hnames, Text.marksIn_eq_zero horder]
    rfl
  refine ⟨hcount.placeholders_eq hnames, hmarks, ?_⟩
  have hcolumns : Text.marksIn q.columns = 0 ↔ ∀ column ∈ q.columns,
      ∀ name, IsAliasOf name column → '?' ∉ name.toList := by
    rw [Text.marksIn_eq_zero_iff]
    refine forall₂_congr fun column hcolumn => ?_
    exact hwl.selectable_iff (hq.columns column hcolumn)
  rw [← hcolumns, hmarks]
  omega

/-- A column is requested under an alias that contains a question mark, and the
three question marks of the statement meet two arguments. -/
theorem data_aligned_iff_aliases_unmarked_misaligned :
    let wl := Whitelist.ofLists ["t"] ["id"]
    let q : Select :=
      { table := "t", columns := ["id AS a?"]
        joins := [{ table := "t", on := .raw "1=1" }] }
    wl.Unmarked ∧ (∀ j ∈ q.joins, j.Unmarked) ∧
      ∃ s, (q.build wl).outcome = .ok s ∧
        s.count.placeholders = s.count.args.length ∧
        s.data.placeholders = s.data.args.length + 1 ∧
        ¬∀ column ∈ q.columns, ∀ name, IsAliasOf name column →
          '?' ∉ name.toList := by
  intro wl q
  have hwl : wl.Unmarked :=
    Whitelist.unmarked_ofLists (by decide) (by decide)
  have hraw : ∀ j ∈ q.joins, j.Unmarked := by
    intro j hj text htext
    rw [List.mem_singleton.mp hj] at htext
    cases htext
    decide
  obtain ⟨hcount, hdata, haligned⟩ :=
    data_aligned_iff_aliases_unmarked (q := q) hwl hraw rfl
  refine ⟨hwl, hraw, _, rfl, hcount, hdata, ?_⟩
  rw [← haligned, hdata]
  decide

/-- The entries of a whitelist do not decide whether a data statement is
aligned. -/
theorem not_data_aligned_of_unmarked :
    ¬∀ (wl : Whitelist) (q : Select) (s : Select.Statements), wl.Unmarked →
      (∀ j ∈ q.joins, j.Unmarked) → (q.build wl).outcome = .ok s →
        s.data.placeholders = s.data.args.length := by
  intro h
  let wl := Whitelist.ofLists ["t"] ["id"]
  let q : Select := { table := "t", columns := ["id AS a?"] }
  have hwl : wl.Unmarked :=
    Whitelist.unmarked_ofLists (by decide) (by decide)
  have hraw : ∀ j ∈ q.joins, j.Unmarked :=
    fun j hj => absurd hj List.not_mem_nil
  have haligned := h wl q _ hwl hraw rfl
  exact absurd haligned (by decide)

end GuardedSql
