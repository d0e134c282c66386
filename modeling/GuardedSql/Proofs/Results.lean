import GuardedSql.Change
import GuardedSql.Insert
import GuardedSql.Proofs.Rendering
import GuardedSql.Select

/-!
# The results of the builders

For each builder, what its result is made of when it succeeds.  The checks that
it makes on the way are left out: which inputs pass them is a matter of its
own.
-/

namespace GuardedSql

open Audited (outcome_bind_eq_ok_iff outcome_bind_pure_eq_ok_iff)

/-! ## Clauses of a query -/

theorem joinClause_eq_ok {wl : Whitelist} {joins : List Join} {sql : String}
    (h : (joinClause wl joins).outcome = .ok sql) :
    " ".intercalate (joins.map Join.text) = sql := by
  obtain ⟨_, _, hsql⟩ := outcome_bind_pure_eq_ok_iff.mp h
  exact hsql

theorem columnList_eq_ok {wl : Whitelist} {columns : List String}
    {sql : String} (h : (columnList wl columns).outcome = .ok sql) :
    (if columns.isEmpty then "*" else ", ".intercalate columns) = sql := by
  unfold columnList at h
  split at h
  · rename_i hempty
    cases h
    rw [if_pos hempty]
  · rename_i hempty
    obtain ⟨_, _, hsql⟩ := outcome_bind_pure_eq_ok_iff.mp h
    rw [if_neg hempty, hsql]

theorem groupClause_eq_ok {wl : Whitelist} {columns : List String}
    {sql : String} (h : (groupClause wl columns).outcome = .ok sql) :
    (if columns.isEmpty then ""
      else "GROUP BY " ++ Text.joinNonEmpty ", " columns) = sql := by
  unfold groupClause at h
  split at h
  · rename_i hempty
    cases h
    rw [if_pos hempty]
  · rename_i hempty
    obtain ⟨_, _, hsql⟩ := outcome_bind_pure_eq_ok_iff.mp h
    rw [if_neg hempty, hsql]

/-- The text of an order, which is empty unless its column is an entry. -/
def orderText (wl : Whitelist) : Option SortOrder → String
  | none => ""
  | some order =>
    if wl.hasColumn order.column then
      "ORDER BY " ++ order.column ++ " " ++ order.direction.text
    else ""

/-- An order is never refused. -/
theorem outcome_orderClause {ε : Type} (wl : Whitelist)
    (order? : Option SortOrder) :
    (orderClause wl order? : Audited ε String).outcome =
      .ok (orderText wl order?) := by
  cases order? with
  | none => rfl
  | some order =>
      unfold orderClause orderText
      dsimp only
      split
      · rfl
      · rfl

/-! ## Queries -/

/-- The clauses of a query are made of the results of its steps. -/
structure Select.Assembled (wl : Whitelist) (q : Select) (joined : String)
    (matching : Statement) (c : Clauses) : Prop where
  joins : (joinClause wl q.joins).outcome = .ok joined
  columns : (columnList wl q.columns).outcome = .ok c.columns
  conditions : (whereClause wl q.filters).outcome = .ok matching
  groupBy : (groupClause wl q.groupBy).outcome = .ok c.groupBy
  having : (havingClause wl q.having).outcome = .ok c.having
  orderBy : c.orderBy = orderText wl q.orderBy
  base : c.base = Statement.concat
    [.ofText ("FROM " ++ q.table), .ofText joined, matching]
  window : c.window = ⟨"LIMIT ? OFFSET ?", [.uint q.limit, .uint q.offset]⟩

theorem Select.exists_assembled {wl : Whitelist} {q : Select} {c : Clauses}
    (h : (q.clauses wl).outcome = .ok c) :
    ∃ joined matching, q.Assembled wl joined matching c := by
  unfold clauses at h
  obtain ⟨_, -, h⟩ := outcome_bind_eq_ok_iff.mp h
  obtain ⟨joined, hjoins, h⟩ := outcome_bind_eq_ok_iff.mp h
  obtain ⟨columns, hcolumns, h⟩ := outcome_bind_eq_ok_iff.mp h
  obtain ⟨matching, hconditions, h⟩ := outcome_bind_eq_ok_iff.mp h
  obtain ⟨groupBy, hgroupBy, h⟩ := outcome_bind_eq_ok_iff.mp h
  obtain ⟨having, hhaving, h⟩ := outcome_bind_eq_ok_iff.mp h
  obtain ⟨orderBy, horderBy, h⟩ := outcome_bind_eq_ok_iff.mp h
  rw [outcome_orderClause] at horderBy
  cases horderBy
  cases h
  exact ⟨joined, matching, hjoins, hcolumns, hconditions, hgroupBy, hhaving,
    rfl, rfl, rfl⟩

theorem Select.clauses_eq_ok {wl : Whitelist} {q : Select} {c : Clauses}
    (h : (q.clauses wl).outcome = .ok c) :
    ∃ conditions having,
      (whereClause wl q.filters).outcome = .ok conditions ∧
      (havingClause wl q.having).outcome = .ok having ∧
      c = {
        columns :=
          if q.columns.isEmpty then "*" else ", ".intercalate q.columns
        base := Statement.concat [.ofText ("FROM " ++ q.table),
          .ofText (" ".intercalate (q.joins.map Join.text)), conditions]
        groupBy :=
          if q.groupBy.isEmpty then ""
          else "GROUP BY " ++ Text.joinNonEmpty ", " q.groupBy
        having
        orderBy := orderText wl q.orderBy
        window := ⟨"LIMIT ? OFFSET ?", [.uint q.limit, .uint q.offset]⟩ } := by
  obtain ⟨joined, matching, hc⟩ := exists_assembled h
  refine ⟨matching, c.having, hc.conditions, hc.having, ?_⟩
  rw [joinClause_eq_ok hc.joins, columnList_eq_ok hc.columns,
    groupClause_eq_ok hc.groupBy, ← hc.orderBy, ← hc.base, ← hc.window]

theorem Select.build_eq_ok {wl : Whitelist} {q : Select}
    {s : Select.Statements} (h : (q.build wl).outcome = .ok s) :
    ∃ c, (q.clauses wl).outcome = .ok c ∧ s = ⟨c.data, c.count⟩ := by
  obtain ⟨c, hc, h⟩ := outcome_bind_eq_ok_iff.mp h
  cases h
  exact ⟨c, hc, rfl⟩

/-! ## Insertions, updates and deletions -/

theorem insertRows_eq_ok {wl : Whitelist} {table : String} {rows : List Record}
    {onDuplicate : List String} {s : Statement}
    (h : (insertRows wl table rows onDuplicate).outcome = .ok s) :
    ∃ first rest, rows = first :: rest ∧
      (∀ row ∈ rows, Insert.fits wl (Insert.columnsOf wl first) row = true) ∧
      s = ⟨Insert.text wl table (Insert.columnsOf wl first) onDuplicate
          rows.length,
        rows.flatMap (Insert.valuesOf (Insert.columnsOf wl first))⟩ := by
  unfold insertRows at h
  obtain ⟨_, -, h⟩ := outcome_bind_eq_ok_iff.mp h
  cases rows with
  | nil => cases h
  | cons first rest =>
      dsimp only at h
      split at h
      · cases h
      · split at h
        · cases h
        · rename_i hfind
          cases h
          refine ⟨first, rest, rfl, ?_, rfl⟩
          intro row hrow
          have hfits := List.findIdx?_eq_none_iff.mp hfind row hrow
          rwa [Bool.not_eq_false'] at hfits

theorem equalityClause_eq_ok {wl : Whitelist} {conditions : Record}
    {s : Statement} (h : (equalityClause wl conditions).outcome = .ok s) :
    s = ⟨"WHERE 1=1" ++
        String.join (conditions.keys.map fun c => " AND " ++ c ++ " = ?"),
      conditions.values⟩ := by
  obtain ⟨_, _, rfl⟩ := outcome_bind_pure_eq_ok_iff.mp h
  rfl

theorem update_eq_ok {wl : Whitelist} {table : String}
    {data conditions : Record} {s : Statement}
    (h : (update wl table data conditions).outcome = .ok s) :
    ∃ matching, (equalityClause wl conditions).outcome = .ok matching ∧
      s = ⟨"UPDATE " ++ table ++ " SET " ++
          ", ".intercalate (data.keys.map fun c => c ++ " = ?"),
        data.values⟩ ++ matching := by
  unfold update at h
  obtain ⟨_, -, h⟩ := outcome_bind_eq_ok_iff.mp h
  split at h
  · cases h
  · obtain ⟨_, -, h⟩ := outcome_bind_eq_ok_iff.mp h
    obtain ⟨matching, hmatching, h⟩ := outcome_bind_eq_ok_iff.mp h
    refine ⟨matching, hmatching, ?_⟩
    split at h
    · cases h
      rfl
    · cases h
      rfl

theorem delete_eq_ok {wl : Whitelist} {table : String} {conditions : Record}
    {s : Statement} (h : (delete wl table conditions).outcome = .ok s) :
    ∃ matching, (equalityClause wl conditions).outcome = .ok matching ∧
      s = .ofText ("DELETE FROM " ++ table) ++ matching := by
  unfold delete at h
  obtain ⟨_, -, h⟩ := outcome_bind_eq_ok_iff.mp h
  split at h
  · cases h
  · obtain ⟨matching, hmatching, h⟩ := outcome_bind_eq_ok_iff.mp h
    cases h
    exact ⟨matching, hmatching, rfl⟩

end GuardedSql
