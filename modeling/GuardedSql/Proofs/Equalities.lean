import GuardedSql.Proofs.Changes
import GuardedSql.Proofs.WrittenForms

/-!
# Two ways to write equalities

The conditions of a deletion are the entries of a record.  The same entries
also make filters, one comparison for equality each.  Both are refused for the
same column and write the same conditions, with one difference: a filter with a
blank value is skipped, and a deletion keeps the condition.
-/

namespace GuardedSql

namespace Record

def equalities (r : Record) : Filters :=
  .ofEqualities (r.entries.map fun entry => (entry.1, .single entry.2))

/-- The entries whose value is not blank. -/
def filled (r : Record) : Entries :=
  r.entries.filter fun entry => !entry.2.isBlank

def blanks (r : Record) : ℕ :=
  r.entries.countP fun entry => entry.2.isBlank

variable {r : Record}

theorem filled_eq_entries (h : ∀ entry ∈ r.entries, entry.2.isBlank = false) :
    r.filled = r.entries := by
  rw [filled, List.filter_eq_self]
  intro entry hentry
  rw [h entry hentry, Bool.not_false]

theorem length_entries (r : Record) :
    r.entries.length = r.filled.length + r.blanks := by
  have hsplit := List.length_eq_countP_add_countP
    (fun entry : String × Value => entry.2.isBlank) (l := r.entries)
  have hfilled : r.filled.length =
      r.entries.countP fun entry => decide ¬entry.2.isBlank = true := by
    rw [filled, ← List.countP_eq_length_filter]
    simp
  rw [hsplit, hfilled, blanks, Nat.add_comm]

theorem map_snd_filled (r : Record) :
    r.filled.map Prod.snd = r.values.filter fun v => !v.isBlank := by
  rw [filled, values, List.filter_map]
  rfl

end Record

/-! ## Filters from entries -/

def equality (entry : String × Value) : Criterion :=
  .filter ⟨entry.1, .equal, .single entry.2⟩

theorem isSkipped_equality (entry : String × Value) :
    (equality entry).isSkipped = entry.2.isBlank := by
  simp [equality, Criterion.isSkipped, Criterion.members, Filter.isSkipped,
    Operand.isBlank]

namespace Record

theorem criteria_equalities (r : Record) :
    r.equalities.criteria = r.entries.map equality := by
  simp only [equalities, Filters.ofEqualities, Filters.criteria_ofList,
    List.map_map]
  rfl

theorem rendered_equalities (r : Record) :
    r.equalities.rendered = r.filled.map equality := by
  rw [Filters.rendered, criteria_equalities, List.filter_map, filled]
  simp only [Function.comp_def, isSkipped_equality]

/-- An equality with a single value fits, so only its column is in question. -/
theorem firstViolated_equalities_iff {wl : Whitelist} {r : Record}
    {e : BuildError} :
    FirstViolated (r.equalities.checks wl) e ↔
      FirstViolated (r.keys.map wl.columnCheck) e := by
  have hchecks : r.equalities.checks wl = r.entries.flatMap fun entry =>
      [wl.columnCheck entry.1,
        Filter.valueCheck ⟨entry.1, .equal, .single entry.2⟩] := by
    rw [Filters.checks, criteria_equalities, List.flatMap_map]
    rfl
  have hkeys : r.keys.map wl.columnCheck =
      r.entries.map fun entry => wl.columnCheck entry.1 := by
    rw [keys, Entries.keys, List.map_map]
    rfl
  rw [hchecks, hkeys]
  apply firstViolated_flatMap_pair_iff
  intro entry _ vs
  exact Operand.noConfusion

theorem written_equalities (r : Record) :
    r.equalities.written "WHERE" =
      ⟨"WHERE 1=1" ++ r.filled.conditionText, r.filled.map Prod.snd⟩ := by
  have htexts : (r.filled.map fun entry => " " ++
      (equality entry).joiningWord ++ " " ++ (equality entry).written.sql) =
        r.filled.map fun entry => " AND " ++ entry.1 ++ " = ?" := by
    apply List.map_congr_left
    intro entry _
    simp only [equality, Criterion.joiningWord, Criterion.written,
      Filter.written, String.append_assoc]
    rfl
  have hargs : (r.filled.flatMap fun entry => (equality entry).written.args) =
      r.filled.map Prod.snd :=
    List.map_eq_flatMap.symm
  rw [Filters.written, rendered_equalities, List.map_map, List.flatMap_map]
  exact Statement.ext (congrArg (_ ++ String.join ·) htexts) hargs

end Record

/-! ## Agreement -/

section

variable {wl : Whitelist} {table : String} {r : Record}

theorem decidedBy_whereClause_equalities (wl : Whitelist) (r : Record) :
    DecidedBy (whereClause wl r.equalities).outcome
      (r.keys.map wl.columnCheck) :=
  (decidedBy_whereClause wl r.equalities).congr
    fun _ => Record.firstViolated_equalities_iff

theorem decidedBy_delete_of_ne_nil (htable : table ∈ wl.tables)
    (hr : r.entries ≠ []) :
    DecidedBy (delete wl table r).outcome (r.keys.map wl.columnCheck) := by
  refine (decidedBy_delete wl table r).congr fun e => ?_
  simp [FirstViolated, Whitelist.tableCheck, htable, hr]

theorem outcome_delete_eq_ok_iff (htable : table ∈ wl.tables)
    (hr : r.entries ≠ []) {s : Statement} :
    (delete wl table r).outcome = .ok s ↔
      (∀ key ∈ r.keys, key ∈ wl.columns) ∧
        s = ⟨"DELETE FROM " ++ table ++ " WHERE 1=1" ++
          r.entries.conditionText, r.values⟩ := by
  have hdecided := decidedBy_delete_of_ne_nil htable hr
  rw [hdecided.eq_ok_iff fun _ => delete_eq_ok_entries, List.forall_mem_map]
  rfl

theorem outcome_whereClause_equalities_eq_ok_iff {s : Statement} :
    (whereClause wl r.equalities).outcome = .ok s ↔
      (∀ key ∈ r.keys, key ∈ wl.columns) ∧
        s = ⟨"WHERE 1=1" ++ r.filled.conditionText,
          r.filled.map Prod.snd⟩ := by
  have hdecided := decidedBy_whereClause_equalities wl r
  rw [hdecided.eq_ok_iff fun _ => whereClause_eq_written, List.forall_mem_map,
    r.written_equalities]
  rfl

end

/-- A deletion by the entries of a record and the clause of the filters that
compare with these entries are refused with the same error.  Where no value is
blank, the deletion is the clause after its table.  In general the clause has a
condition for every entry whose value is not blank and the deletion has one for
every entry, both of them in the order of the record. -/
theorem deletion_agrees_with_filters {wl : Whitelist} {table : String}
    {r : Record} (htable : table ∈ wl.tables) (hr : r.entries ≠ []) :
    (∀ e, (delete wl table r).outcome = .error e ↔
      (whereClause wl r.equalities).outcome = .error e) ∧
    ((∀ entry ∈ r.entries, entry.2.isBlank = false) →
      ∀ s, (delete wl table r).outcome = .ok s ↔
        ∃ w, (whereClause wl r.equalities).outcome = .ok w ∧
          s = ⟨"DELETE FROM " ++ table ++ " " ++ w.sql, w.args⟩) ∧
    ((∀ key ∈ r.keys, key ∈ wl.columns) →
      ∃ s w, (delete wl table r).outcome = .ok s ∧
        (whereClause wl r.equalities).outcome = .ok w ∧
        s = ⟨"DELETE FROM " ++ table ++ " WHERE 1=1" ++
          r.entries.conditionText, r.values⟩ ∧
        w = ⟨"WHERE 1=1" ++ r.filled.conditionText, r.filled.map Prod.snd⟩ ∧
        r.entries.length = r.filled.length + r.blanks ∧
        s.args.length = w.args.length + r.blanks ∧
        w.args = s.args.filter fun v => !v.isBlank) := by
  have hdelete := decidedBy_delete_of_ne_nil htable hr
  have hwhere := decidedBy_whereClause_equalities wl r
  refine ⟨fun e => hdelete.eq_error_iff.trans hwhere.eq_error_iff.symm, ?_, ?_⟩
  · intro hblank s
    have htext : "DELETE FROM " ++ table ++ " WHERE 1=1" ++
        r.entries.conditionText =
          "DELETE FROM " ++ table ++ " " ++
            ("WHERE 1=1" ++ r.entries.conditionText) := by
      have hspace : " WHERE 1=1" = " " ++ "WHERE 1=1" := rfl
      simp only [hspace, String.append_assoc]
    rw [outcome_delete_eq_ok_iff htable hr, htext]
    simp only [outcome_whereClause_equalities_eq_ok_iff,
      Record.filled_eq_entries hblank]
    constructor
    · rintro ⟨hlisted, rfl⟩
      exact ⟨_, ⟨hlisted, rfl⟩, rfl⟩
    · rintro ⟨w, ⟨hlisted, rfl⟩, rfl⟩
      exact ⟨hlisted, rfl⟩
  · intro hlisted
    have hlength : r.entries.length = r.filled.length + r.blanks :=
      r.length_entries
    refine ⟨_, _, (outcome_delete_eq_ok_iff htable hr).mpr ⟨hlisted, rfl⟩,
      outcome_whereClause_equalities_eq_ok_iff.mpr ⟨hlisted, rfl⟩, rfl, rfl,
      hlength, ?_, r.map_snd_filled⟩
    rw [r.length_values, r.length_keys, List.length_map]
    exact hlength

/-- A record without blank values, one with two of them, and one with a column
that is not listed. -/
theorem deletion_agrees_with_filters_blank :
    let wl := Whitelist.ofLists ["users"] ["id", "name", "note"]
    let plain : Record := .ofList [("note", .text "x"), ("id", .int 1)]
    let blank : Record :=
      .ofList [("name", .text ""), ("id", .int 1), ("note", .null)]
    let unlisted : Record := .ofList [("id", .null), ("age", .int 2)]
    "users" ∈ wl.tables ∧ plain.entries ≠ [] ∧ blank.entries ≠ [] ∧
      unlisted.entries ≠ [] ∧
      (∀ entry ∈ plain.entries, entry.2.isBlank = false) ∧
      (delete wl "users" plain).outcome =
        .ok ⟨"DELETE FROM users WHERE 1=1 AND note = ? AND id = ?",
          [.text "x", .int 1]⟩ ∧
      (∀ key ∈ blank.keys, key ∈ wl.columns) ∧ blank.blanks = 2 ∧
      (delete wl "users" blank).outcome =
        .ok ⟨"DELETE FROM users WHERE 1=1 AND name = ? AND id = ?" ++
          " AND note = ?", [.text "", .int 1, .null]⟩ ∧
      (whereClause wl blank.equalities).outcome =
        .ok ⟨"WHERE 1=1 AND id = ?", [.int 1]⟩ ∧
      (delete wl "users" unlisted).outcome =
        .error (.columnNotAllowed "age") := by
  intro wl plain blank unlisted
  have htable : "users" ∈ wl.tables := by decide
  have hplain : plain.entries ≠ [] := List.cons_ne_nil _ _
  have hsome : blank.entries ≠ [] := List.cons_ne_nil _ _
  have hunlisted : unlisted.entries ≠ [] := List.cons_ne_nil _ _
  have hfilled : ∀ entry ∈ plain.entries, entry.2.isBlank = false :=
    List.forall_mem_cons.mpr ⟨rfl, List.forall_mem_singleton.mpr rfl⟩
  have hlisted : ∀ key ∈ blank.keys, key ∈ wl.columns := by decide
  obtain ⟨-, hagree, -⟩ := deletion_agrees_with_filters htable hplain
  obtain ⟨-, -, hblank⟩ := deletion_agrees_with_filters htable hsome
  obtain ⟨herror, -, -⟩ := deletion_agrees_with_filters htable hunlisted
  obtain ⟨s, w, hs, hw, rfl, rfl, -, -, -⟩ := hblank hlisted
  refine ⟨htable, hplain, hsome, hunlisted, hfilled, ?_, hlisted, rfl, hs, hw,
    (herror _).mpr rfl⟩
  exact (hagree hfilled _).mpr
    ⟨⟨"WHERE 1=1 AND note = ? AND id = ?", _⟩, rfl, rfl⟩

end GuardedSql
