import GuardedSql.Proofs.UnlistedColumns
import Mathlib.Algebra.GroupWithZero.Nat

/-!
# Columns without a name

The list of columns of an insertion leaves out a column whose name is empty,
while its value is bound and its placeholder written.  This can happen only if
the whitelist lists the empty name and the first row has it as a key.  Then the
list has one item too few for each row.
-/

namespace GuardedSql

/-! ## Lists without the empty name -/

namespace Text

def named (items : List String) : List String :=
  items.filter fun item => item ≠ ""

theorem joinNonEmpty_eq_intercalate_named (sep : String) (items : List String) :
    joinNonEmpty sep items = sep.intercalate (named items) := by
  have hkept : (items.filter fun item => !item.isEmpty) = named items := by
    apply List.filter_congr
    intro item _
    rw [Bool.eq_iff_iff]
    simp
  rw [joinNonEmpty, hkept]

theorem named_eq_self_iff {items : List String} :
    named items = items ↔ "" ∉ items := by
  rw [named, List.filter_eq_self]
  constructor
  · intro hnamed hmem
    simpa using hnamed "" hmem
  · intro hmem item hitem
    have hne : item ≠ "" := fun heq => hmem (heq ▸ hitem)
    simpa using hne

/-- The empty name occurs at most once among different names, so one item is
missing if it occurs. -/
theorem perm_cons_named {items : List String} (hnodup : items.Nodup)
    (h : "" ∈ items) : items.Perm ("" :: named items) := by
  have herase : items.erase "" = named items := by
    rw [hnodup.erase_eq_filter, named]
    apply List.filter_congr
    intro item _
    rw [Bool.eq_iff_iff]
    simp
  rw [← herase]
  exact List.perm_cons_erase h

theorem length_commaSeparated {items : List String} (h : items ≠ []) :
    (", ".intercalate items).length + 2 =
      (items.map fun item => item.length + 2).sum := by
  induction items with
  | nil => exact absurd rfl h
  | cons item rest ih =>
      by_cases hrest : rest = []
      · simp [hrest]
      · have hlength := ih hrest
        rw [String.intercalate_cons_of_ne_nil hrest, List.map_cons,
          List.sum_cons, ← hlength, String.length_append, String.length_append]
        have hsep : ", ".length = 2 := rfl
        omega

/-- A list written without its empty name shows it, unless there is no other
name. -/
theorem commaSeparated_named_eq_iff {items : List String}
    (hnodup : items.Nodup) :
    ", ".intercalate (named items) = ", ".intercalate items ↔
      "" ∉ items ∨ items = [""] := by
  constructor
  · intro htext
    by_contra hneither
    obtain ⟨hmem, hothers⟩ := not_or.mp hneither
    rw [not_not] at hmem
    have hperm := perm_cons_named hnodup hmem
    have hnamed : named items ≠ [] := by
      intro hnone
      rw [hnone] at hperm
      exact hothers hperm.eq_singleton
    have hitems : items ≠ [] := List.ne_nil_of_mem hmem
    have hsum := (hperm.map fun item => item.length + 2).sum_nat
    rw [List.map_cons, List.sum_cons, ← length_commaSeparated hitems,
      ← length_commaSeparated hnamed, htext] at hsum
    have hempty : "".length = 0 := rfl
    omega
  · rintro (hmem | rfl)
    · rw [named_eq_self_iff.mpr hmem]
    · rfl

end Text

/-! ## The list of an insertion -/

namespace Insert

variable {wl : Whitelist} {table : String} {columns onDuplicate : List String}
  {rows : List Record}

/-- The text of an insertion that lists some columns and has a placeholder for
each of some columns in every row. -/
def laidOut (table : String) (listed columns onDuplicate : List String)
    (rows : ℕ) : String :=
  let group := "(" ++ ", ".intercalate (columns.map fun _ => "?") ++ ")"
  "INSERT INTO " ++ table ++ " (" ++ ", ".intercalate listed ++ ") VALUES " ++
    ", ".intercalate (List.replicate rows group) ++
    writtenReplacement columns onDuplicate

theorem written_eq_laidOut (table : String) (columns onDuplicate : List String)
    (rows : ℕ) :
    written table columns onDuplicate rows =
      laidOut table columns columns onDuplicate rows :=
  rfl

theorem laidOut_eq_iff {listed listed' : List String} {count : ℕ} :
    laidOut table listed columns onDuplicate count =
        laidOut table listed' columns onDuplicate count ↔
      ", ".intercalate listed = ", ".intercalate listed' := by
  unfold laidOut
  simp only [String.append_left_inj, String.append_right_inj]

theorem text_eq_laidOut (hallowed : ∀ column ∈ columns, column ∈ wl.columns)
    (count : ℕ) :
    text wl table columns onDuplicate count =
      laidOut table (Text.named columns) columns onDuplicate count := by
  have hmarks : Text.questionMarks columns.length =
      ", ".intercalate (columns.map fun _ => "?") := by
    rw [Text.questionMarks, List.map_const']
  unfold text laidOut
  rw [Text.joinNonEmpty_eq_intercalate_named, hmarks,
    replacement_eq_written hallowed]

theorem empty_mem_leadingColumns_iff :
    "" ∈ leadingColumns wl rows ↔
      "" ∈ wl.columns ∧ ∃ first, rows.head? = some first ∧ "" ∈ first.keys := by
  match rows with
  | [] => simp [leadingColumns]
  | first :: rest =>
      rw [leadingColumns, mem_columnsOf, and_comm]
      simp

end Insert

/-- What is known of an insertion that is not refused: its text and its
arguments are made from the allowed columns of the first row. -/
theorem insertRows_eq_ok_laidOut {wl : Whitelist} {table : String}
    {rows : List Record} {onDuplicate : List String} {s : Statement}
    (h : (insertRows wl table rows onDuplicate).outcome = .ok s) :
    s.sql = Insert.laidOut table (Text.named (Insert.leadingColumns wl rows))
        (Insert.leadingColumns wl rows) onDuplicate rows.length ∧
      Insert.PlacesValues (Insert.leadingColumns wl rows) rows s.args := by
  have hnodup := Insert.nodup_leadingColumns wl rows
  obtain ⟨first, rest, rfl, hfits, rfl⟩ := insertRows_eq_ok h
  have hallowed : ∀ column ∈ Insert.leadingColumns wl (first :: rest),
      column ∈ wl.columns := fun _ => Insert.mem_columns_of_mem_leadingColumns
  constructor
  · exact Insert.text_eq_laidOut hallowed _
  · exact Insert.placesValues_flatMap hnodup fun row hrow =>
      (Insert.fits_iff_hasColumns hnodup).mp (hfits row hrow)

/-- An insertion binds a value for each of its columns in every row and lists
those of them that have a name, in the same order.  The list is complete exactly
when no column has the empty name; otherwise it has one item fewer than there
are placeholders in a row, and the text shows it unless there is no other
column.  It takes a whitelist with the empty name and a first row that has it as
a key. -/
theorem insertion_lists_named_columns {wl : Whitelist} {table : String}
    {rows : List Record} {onDuplicate : List String} {s : Statement}
    (h : (insertRows wl table rows onDuplicate).outcome = .ok s) :
    let columns := Insert.leadingColumns wl rows
    let listed := Text.named columns
    Insert.PlacesValues columns rows s.args ∧
      s.sql = Insert.laidOut table listed columns onDuplicate rows.length ∧
      (listed = columns ↔ "" ∉ columns) ∧
      ("" ∈ columns → listed.length + 1 = columns.length) ∧
      (s.sql = Insert.written table columns onDuplicate rows.length ↔
        "" ∉ columns ∨ columns = [""]) ∧
      ("" ∈ columns ↔ "" ∈ wl.columns ∧
        ∃ first, rows.head? = some first ∧ "" ∈ first.keys) := by
  intro columns listed
  have hnodup : columns.Nodup := Insert.nodup_leadingColumns wl rows
  obtain ⟨hsql, hplaced⟩ := insertRows_eq_ok_laidOut h
  refine ⟨hplaced, hsql, Text.named_eq_self_iff, ?_, ?_,
    Insert.empty_mem_leadingColumns_iff⟩
  · intro hmem
    exact (Text.perm_cons_named hnodup hmem).length_eq.symm
  · rw [hsql, Insert.written_eq_laidOut, Insert.laidOut_eq_iff]
    exact Text.commaSeparated_named_eq_iff hnodup

/-- Two rows with a column that has the empty name, once listed and once not. -/
theorem insertion_lists_named_columns_unnamed :
    let wl := Whitelist.ofLists ["t"] ["", "a"]
    let named := Whitelist.ofLists ["t"] ["a"]
    let rows : List Record :=
      [.ofList [("", .int 1), ("a", .int 2)],
        .ofList [("a", .int 4), ("", .int 3)]]
    let s : Statement :=
      ⟨"INSERT INTO t (a) VALUES (?, ?), (?, ?)",
        [.int 1, .int 2, .int 3, .int 4]⟩
    let s' : Statement :=
      ⟨"INSERT INTO t (a) VALUES (?), (?)", [.int 2, .int 4]⟩
    (insertRows wl "t" rows []).outcome = .ok s ∧
      Insert.PlacesValues ["", "a"] rows s.args ∧
      (Text.named ["", "a"]).length + 1 = 2 ∧
      s.sql ≠ Insert.written "t" ["", "a"] [] 2 ∧
      (insertRows named "t" rows []).outcome = .ok s' ∧
      s'.sql = Insert.written "t" ["a"] [] 2 := by
  intro wl named rows s s'
  have hs : (insertRows wl "t" rows []).outcome = .ok s := rfl
  have hs' : (insertRows named "t" rows []).outcome = .ok s' := rfl
  obtain ⟨hplaced, -, -, hmissing, htext, -⟩ :=
    insertion_lists_named_columns hs
  obtain ⟨-, -, -, -, htext', -⟩ := insertion_lists_named_columns hs'
  have hmem : "" ∈ Insert.leadingColumns wl rows := List.mem_cons_self
  refine ⟨hs, hplaced, hmissing hmem, ?_, hs', htext'.mpr (.inl (by decide))⟩
  intro hwritten
  rcases htext.mp hwritten with hnot | hothers
  · exact hnot hmem
  · exact absurd hothers (by decide)

/-- It is not the case that every insertion lists the columns whose values it
binds. -/
theorem not_insertion_lists_every_column :
    ¬∀ (wl : Whitelist) (table : String) (rows : List Record)
        (onDuplicate : List String) (s : Statement),
      (insertRows wl table rows onDuplicate).outcome = .ok s →
        ∃ columns, Insert.PlacesValues columns rows s.args ∧
          s.sql = Insert.written table columns onDuplicate rows.length := by
  intro hlists
  obtain ⟨columns, ⟨hlength, hplaced⟩, hsql⟩ :=
    hlists (.ofLists ["t"] ["", "a"]) "t"
      [.ofList [("", .int 1), ("a", .int 2)]] []
      ⟨"INSERT INTO t (a) VALUES (?, ?)", [.int 1, .int 2]⟩ rfl
  match columns with
  | [] => simp at hlength
  | [_] => simp at hlength
  | [first, second] =>
      obtain ⟨_, hfirst, hone⟩ := hplaced 0 0 _ first rfl rfl
      obtain ⟨_, hsecond, htwo⟩ := hplaced 0 1 _ second rfl rfl
      cases hone
      cases htwo
      rw [Record.get?, ← Entries.mem_iff_get?_eq_some (Record.nodup _)]
        at hfirst hsecond
      change (first, Value.int 1) ∈ [("", .int 1), ("a", .int 2)] at hfirst
      change (second, Value.int 2) ∈ [("", .int 1), ("a", .int 2)] at hsecond
      obtain rfl : first = "" := by simpa using hfirst
      obtain rfl : second = "a" := by simpa using hsecond
      exact absurd hsql (by decide)
  | _ :: _ :: _ :: _ => simp at hlength

end GuardedSql
