import GuardedSql.Proofs.Acceptance
import GuardedSql.Proofs.Concatenation
import GuardedSql.Proofs.Rows

/-!
# What updates and deletions write

An update and a deletion are refused with the first demand that their input
does not meet.  Otherwise they have a condition for each entry of the record
that they are restricted by, whatever its value is, so a deletion has at least
one.
-/

namespace GuardedSql

/-! ## Demands -/

theorem Whitelist.decidedBy_checkPlainColumns (wl : Whitelist)
    (columns : List String) :
    DecidedBy (wl.checkColumns .plain columns).outcome
      (columns.map wl.columnCheck) := by
  apply wl.decidedBy_checkColumns
  intro column
  exact wl.decidedBy_checkColumn .plain hasColumn_iff

theorem decidedBy_equalityClause (wl : Whitelist) (conditions : Record) :
    DecidedBy (equalityClause wl conditions).outcome
      (conditions.keys.map wl.columnCheck) :=
  (wl.decidedBy_checkPlainColumns conditions.keys).bind_pure _

theorem Record.isEmpty_iff_not_ne_nil {r : Record} :
    r.isEmpty = true ↔ ¬r.entries ≠ [] := by
  rw [isEmpty, List.isEmpty_iff, not_not]

theorem decidedBy_delete (wl : Whitelist) (table : String)
    (conditions : Record) :
    DecidedBy (delete wl table conditions).outcome
      (wl.tableCheck table :: ⟨conditions.entries ≠ [], .missingWhere⟩ ::
        conditions.keys.map wl.columnCheck) := by
  have htable := wl.decidedBy_checkTable table
  have hclause := decidedBy_equalityClause wl conditions
  refine htable.bind fun _ _ => ?_
  apply DecidedBy.ite_fail Record.isEmpty_iff_not_ne_nil
  exact hclause.bind_of_isOk fun _ => ⟨_, rfl⟩

theorem decidedBy_update (wl : Whitelist) (table : String)
    (data conditions : Record) :
    DecidedBy (update wl table data conditions).outcome
      (wl.tableCheck table :: ⟨data.entries ≠ [], .noUpdatableFields⟩ ::
        (data.keys ++ conditions.keys).map wl.columnCheck) := by
  have htable := wl.decidedBy_checkTable table
  have hcolumns := wl.decidedBy_checkPlainColumns data.keys
  have hclause := decidedBy_equalityClause wl conditions
  refine htable.bind fun _ _ => ?_
  apply DecidedBy.ite_fail Record.isEmpty_iff_not_ne_nil
  rw [List.map_append]
  refine hcolumns.bind fun _ _ => ?_
  refine hclause.bind_of_isOk fun _ => ?_
  split
  · exact ⟨_, rfl⟩
  · exact ⟨_, rfl⟩

/-! ## Texts -/

/-- The text that compares each column of some entries with a placeholder. -/
def Entries.conditionText (entries : Entries) : String :=
  String.join (entries.map fun entry => " AND " ++ entry.1 ++ " = ?")

/-- The text that assigns a placeholder to each column of some entries. -/
def Entries.assignmentText (entries : Entries) : String :=
  ", ".intercalate (entries.map fun entry => entry.1 ++ " = ?")

theorem equalityClause_eq_ok_entries {wl : Whitelist} {conditions : Record}
    {s : Statement} (h : (equalityClause wl conditions).outcome = .ok s) :
    s = ⟨"WHERE 1=1" ++ conditions.entries.conditionText,
      conditions.values⟩ := by
  rw [equalityClause_eq_ok h, Record.keys, Entries.keys, List.map_map]
  rfl

/-- A clause of conditions stands after a text with one space between them. -/
theorem Statement.append_where {sql : String} (hsql : sql ≠ "")
    (conditions : String) (args args' : List Value) :
    (⟨sql, args⟩ : Statement) ++ ⟨"WHERE 1=1" ++ conditions, args'⟩ =
      ⟨sql ++ " WHERE 1=1" ++ conditions, args ++ args'⟩ := by
  have hwhere : "WHERE 1=1" ++ conditions ≠ "" := by simp
  have hspace : " WHERE 1=1" = " " ++ "WHERE 1=1" := rfl
  apply Statement.ext
  · rw [sql_append, spaced_of_ne_empty hsql hwhere, hspace]
    simp only [String.append_assoc]
  · rfl

theorem delete_eq_ok_entries {wl : Whitelist} {table : String}
    {conditions : Record} {s : Statement}
    (h : (delete wl table conditions).outcome = .ok s) :
    s = ⟨"DELETE FROM " ++ table ++ " WHERE 1=1" ++
        conditions.entries.conditionText,
      conditions.values⟩ := by
  obtain ⟨matching, hmatching, rfl⟩ := delete_eq_ok h
  rw [equalityClause_eq_ok_entries hmatching]
  exact Statement.append_where (by simp) _ [] conditions.values

theorem update_eq_ok_entries {wl : Whitelist} {table : String}
    {data conditions : Record} {s : Statement}
    (h : (update wl table data conditions).outcome = .ok s) :
    s = ⟨"UPDATE " ++ table ++ " SET " ++ data.entries.assignmentText ++
        " WHERE 1=1" ++ conditions.entries.conditionText,
      data.values ++ conditions.values⟩ := by
  obtain ⟨matching, hmatching, rfl⟩ := update_eq_ok h
  have hassignments : (data.keys.map fun c => c ++ " = ?") =
      data.entries.map fun entry => entry.1 ++ " = ?" :=
    List.map_map
  rw [equalityClause_eq_ok_entries hmatching, hassignments]
  exact Statement.append_where (by simp) _ data.values conditions.values

/-! ## Updates and deletions -/

/-- A deletion is refused for its table, for want of conditions, or for the
first column of its conditions that is not listed.  Otherwise it has a
condition for every entry.  An update is refused for its table, for want of
data, or for the first column of its data and then of its conditions that is
not listed.  Otherwise it has an assignment and a condition for every entry. -/
theorem changes_keep_every_entry (wl : Whitelist) (table : String) :
    (∀ conditions : Record,
      (∀ e, (delete wl table conditions).outcome = .error e ↔
        FirstViolated
          (wl.tableCheck table :: ⟨conditions.entries ≠ [], .missingWhere⟩ ::
            conditions.keys.map wl.columnCheck) e) ∧
      ∀ s, (delete wl table conditions).outcome = .ok s ↔
        (table ∈ wl.tables ∧ conditions.entries ≠ [] ∧
          ∀ key ∈ conditions.keys, key ∈ wl.columns) ∧
        s = ⟨"DELETE FROM " ++ table ++ " WHERE 1=1" ++
            conditions.entries.conditionText,
          conditions.values⟩) ∧
    ∀ data conditions : Record,
      (∀ e, (update wl table data conditions).outcome = .error e ↔
        FirstViolated
          (wl.tableCheck table :: ⟨data.entries ≠ [], .noUpdatableFields⟩ ::
            (data.keys ++ conditions.keys).map wl.columnCheck) e) ∧
      ∀ s, (update wl table data conditions).outcome = .ok s ↔
        (table ∈ wl.tables ∧ data.entries ≠ [] ∧
          ∀ key ∈ data.keys ++ conditions.keys, key ∈ wl.columns) ∧
        s = ⟨"UPDATE " ++ table ++ " SET " ++ data.entries.assignmentText ++
            " WHERE 1=1" ++ conditions.entries.conditionText,
          data.values ++ conditions.values⟩ := by
  constructor
  · intro conditions
    have hdecided := decidedBy_delete wl table conditions
    refine ⟨fun e => hdecided.eq_error_iff, fun s => ?_⟩
    rw [hdecided.eq_ok_iff fun _ => delete_eq_ok_entries]
    simp only [List.forall_mem_cons, List.forall_mem_map]
    rfl
  · intro data conditions
    have hdecided := decidedBy_update wl table data conditions
    refine ⟨fun e => hdecided.eq_error_iff, fun s => ?_⟩
    rw [hdecided.eq_ok_iff fun _ => update_eq_ok_entries]
    simp only [List.forall_mem_cons, List.forall_mem_map]
    rfl

/-- Null and the empty text are compared with like all other values.  A
deletion without conditions is refused, and so is an update with conditions
that are not all listed. -/
theorem changes_keep_every_entry_blank :
    let wl := Whitelist.ofLists ["users"] ["id", "name", "note"]
    let blanks : Record := .ofList [("name", .text ""), ("id", .null)]
    let data : Record := .ofList [("note", .text "x"), ("name", .null)]
    let unlisted : Record :=
      .ofList [("id", .int 1), ("age", .int 2), ("role", .int 3)]
    (delete wl "users" blanks).outcome =
        .ok ⟨"DELETE FROM users WHERE 1=1 AND name = ? AND id = ?",
          [.text "", .null]⟩ ∧
      (delete wl "users" .empty).outcome = .error .missingWhere ∧
      (update wl "users" data blanks).outcome =
        .ok ⟨"UPDATE users SET note = ?, name = ? WHERE 1=1 AND name = ?" ++
            " AND id = ?",
          [.text "x", .null, .text "", .null]⟩ ∧
      (update wl "users" data unlisted).outcome =
        .error (.columnNotAllowed "age") := by
  intro wl blanks data unlisted
  obtain ⟨hdelete, hupdate⟩ := changes_keep_every_entry wl "users"
  have htable : "users" ∈ wl.tables := by decide
  have hblanks : ∀ key ∈ blanks.keys, key ∈ wl.columns := by decide
  have hdata : ∀ key ∈ data.keys ++ blanks.keys, key ∈ wl.columns := by decide
  refine ⟨?_, ?_, ?_, ?_⟩
  · exact ((hdelete blanks).2 _).mpr
      ⟨⟨htable, List.cons_ne_nil _ _, hblanks⟩, rfl⟩
  · rw [(hdelete .empty).1]
    exact .inr ⟨htable, .inl ⟨not_not.mpr rfl, rfl⟩⟩
  · exact ((hupdate data blanks).2 _).mpr
      ⟨⟨htable, List.cons_ne_nil _ _, hdata⟩, rfl⟩
  · have hfirst : ∀ key ∈ data.keys ++ ["id"], key ∈ wl.columns := by decide
    have hnot : "age" ∉ wl.columns := by decide
    rw [(hupdate data unlisted).1]
    refine .inr ⟨htable, .inr ⟨List.cons_ne_nil _ _, ?_⟩⟩
    change FirstViolated ((data.keys ++ ["id"]).map wl.columnCheck ++
      wl.columnCheck "age" :: [wl.columnCheck "role"]) _
    refine FirstViolated.append_right ?_ (.inl ⟨hnot, rfl⟩)
    rw [List.forall_mem_map]
    exact hfirst

end GuardedSql
