import GuardedSql.Proofs.Concatenation
import GuardedSql.Proofs.Results
import GuardedSql.Proofs.Rows

/-!
# What insertions write

An insertion writes the allowed columns of its first row.  It is refused for
its table, for want of columns, or for the first row whose allowed columns are
not the same.  Otherwise every row binds its value for every column, and none is
bound in the place of another.
-/

namespace GuardedSql

namespace Insert

variable {wl : Whitelist} {table : String} {columns onDuplicate : List String}
  {row : Record} {rows : List Record}

/-! ## Columns -/

/-- The columns that an insertion writes: the allowed columns of its first row,
in order. -/
def leadingColumns (wl : Whitelist) : List Record → List String
  | [] => []
  | first :: _ => columnsOf wl first

/-- The allowed columns of a row are the given ones, in any order. -/
def HasColumns (wl : Whitelist) (columns : List String) (row : Record) : Prop :=
  ∀ column, column ∈ columnsOf wl row ↔ column ∈ columns

/-- The row at a position is the first one whose allowed columns are not those
that the insertion writes. -/
def IsFirstDeviation (wl : Whitelist) (rows : List Record) (i : ℕ) : Prop :=
  (∃ row, rows[i]? = some row ∧
    ¬HasColumns wl (leadingColumns wl rows) row) ∧
  ∀ j < i, ∀ row, rows[j]? = some row →
    HasColumns wl (leadingColumns wl rows) row

theorem nodup_leadingColumns (wl : Whitelist) (rows : List Record) :
    (leadingColumns wl rows).Nodup := by
  match rows with
  | [] => exact List.nodup_nil
  | first :: _ => exact nodup_columnsOf wl first

theorem mem_columns_of_mem_leadingColumns {column : String}
    (h : column ∈ leadingColumns wl rows) : column ∈ wl.columns := by
  match rows with
  | [] => exact absurd h List.not_mem_nil
  | first :: _ => exact (mem_columnsOf.mp h).2

/-- Equal length and inclusion decide whether two sets of columns are the same,
since no column occurs twice in either of them. -/
theorem fits_iff_hasColumns (hcolumns : columns.Nodup) :
    fits wl columns row = true ↔ HasColumns wl columns row := by
  constructor
  · intro hfits column
    exact (perm_columnsOf_of_fits hfits).mem_iff
  · intro hsame
    have hperm : (columnsOf wl row).Perm columns :=
      (List.perm_ext_iff_of_nodup (nodup_columnsOf wl row) hcolumns).mpr hsame
    have hall : (columnsOf wl row).all columns.contains = true := by
      rw [List.all_eq_true]
      intro column hcolumn
      exact List.contains_iff_mem.mpr ((hsame column).mp hcolumn)
    simp [fits, hperm.length_eq, hall]

theorem findIdx?_deviation_iff {i : ℕ} :
    (rows.findIdx? fun row => !fits wl (leadingColumns wl rows) row) = some i ↔
      IsFirstDeviation wl rows i := by
  have hnodup := nodup_leadingColumns wl rows
  rw [List.findIdx?_eq_some_iff_getElem]
  simp only [Bool.not_eq_true', ← Bool.not_eq_true, fits_iff_hasColumns hnodup,
    not_not]
  constructor
  · rintro ⟨hi, hdeviates, hbefore⟩
    refine ⟨⟨rows[i], List.getElem?_eq_getElem hi, hdeviates⟩, ?_⟩
    intro j hj row hrow
    obtain ⟨hlength, rfl⟩ := List.getElem?_eq_some_iff.mp hrow
    exact hbefore j hj
  · rintro ⟨⟨row, hrow, hdeviates⟩, hbefore⟩
    obtain ⟨hi, rfl⟩ := List.getElem?_eq_some_iff.mp hrow
    refine ⟨hi, hdeviates, fun j hj => ?_⟩
    exact hbefore j hj _ (List.getElem?_eq_getElem (Nat.lt_trans hj hi))

/-! ## Arguments -/

/-- Every row binds its value for every column, row after row. -/
def PlacesValues (columns : List String) (rows : List Record)
    (args : List Value) : Prop :=
  args.length = rows.length * columns.length ∧
  ∀ i j row column, rows[i]? = some row → columns[j]? = some column →
    ∃ v, row.get? column = some v ∧ args[i * columns.length + j]? = some v

/-- A row that has all of the columns binds the value of each in its place. -/
theorem getElem?_valuesOf (hkeys : ∀ column ∈ columns, column ∈ row.keys)
    (j : ℕ) : (valuesOf columns row)[j]? = columns[j]?.bind row.get? := by
  induction columns generalizing j with
  | nil => simp [valuesOf]
  | cons column others ih =>
      obtain ⟨hcolumn, hothers⟩ := List.forall_mem_cons.mp hkeys
      have hsome := Record.isSome_get?_iff.mpr hcolumn
      obtain ⟨v, hv⟩ := Option.isSome_iff_exists.mp hsome
      have hvalues : valuesOf (column :: others) row = v :: valuesOf others row :=
        List.filterMap_cons_some hv
      rw [hvalues]
      match j with
      | 0 => simp [hv]
      | j + 1 => simpa using ih hothers j

/-- Parts of one length, written one after the other, are found by counting. -/
theorem getElem?_flatMap_of_length_eq {α β : Type} {f : α → List β} {n : ℕ}
    {xs : List α} (hlength : ∀ x ∈ xs, (f x).length = n) {i j : ℕ} {x : α}
    (hx : xs[i]? = some x) (hj : j < n) :
    (xs.flatMap f)[i * n + j]? = (f x)[j]? := by
  induction xs generalizing i with
  | nil => simp at hx
  | cons y ys ih =>
      obtain ⟨hy, hys⟩ := List.forall_mem_cons.mp hlength
      rw [List.flatMap_cons]
      match i with
      | 0 =>
          obtain rfl : y = x := by simpa using hx
          rw [Nat.zero_mul, Nat.zero_add, List.getElem?_append_left]
          rwa [hy]
      | i + 1 =>
          have hplace : (i + 1) * n + j = n + (i * n + j) := by
            rw [Nat.add_mul, Nat.one_mul]
            omega
          rw [hplace, List.getElem?_append_right (by omega), hy,
            Nat.add_sub_cancel_left]
          exact ih hys (by simpa using hx)

theorem placesValues_flatMap (hnodup : columns.Nodup)
    (hrows : ∀ row ∈ rows, HasColumns wl columns row) :
    PlacesValues columns rows (rows.flatMap (valuesOf columns)) := by
  have hfits : ∀ row ∈ rows, fits wl columns row = true := fun row hrow =>
    (fits_iff_hasColumns hnodup).mpr (hrows row hrow)
  have hlength : ∀ row ∈ rows, (valuesOf columns row).length = columns.length :=
    fun row hrow => length_valuesOf_of_fits (hfits row hrow)
  refine ⟨length_flatMap_valuesOf hfits, ?_⟩
  intro i j row column hrow hcolumn
  have hkeys : ∀ column ∈ columns, column ∈ row.keys := by
    intro column hmem
    have hown := hrows row (List.mem_of_getElem? hrow) column
    exact (mem_columnsOf.mp (hown.mpr hmem)).1
  have hsome := Record.isSome_get?_iff.mpr
    (hkeys column (List.mem_of_getElem? hcolumn))
  obtain ⟨v, hv⟩ := Option.isSome_iff_exists.mp hsome
  obtain ⟨hj, -⟩ := List.getElem?_eq_some_iff.mp hcolumn
  refine ⟨v, hv, ?_⟩
  rw [getElem?_flatMap_of_length_eq hlength hrow hj, getElem?_valuesOf hkeys,
    hcolumn]
  exact hv

/-! ## Text -/

/-- The assignments for the columns that are replaced when a key is taken: those
of the columns asked for that are written. -/
def writtenReplacement (columns onDuplicate : List String) : String :=
  let replaced := onDuplicate.filter fun column => decide (column ∈ columns)
  if replaced = [] then ""
  else
    " ON DUPLICATE KEY UPDATE " ++ ", ".intercalate
      (replaced.map fun column => column ++ " = VALUES(" ++ column ++ ")")

def written (table : String) (columns onDuplicate : List String) (rows : ℕ) :
    String :=
  let group := "(" ++ ", ".intercalate (columns.map fun _ => "?") ++ ")"
  "INSERT INTO " ++ table ++ " (" ++ ", ".intercalate columns ++ ") VALUES " ++
    ", ".intercalate (List.replicate rows group) ++
    writtenReplacement columns onDuplicate

theorem joinNonEmpty_of_not_mem {sep : String} {items : List String}
    (h : "" ∉ items) : Text.joinNonEmpty sep items = sep.intercalate items := by
  have hkept : items.filter (fun item => !item.isEmpty) = items := by
    rw [List.filter_eq_self]
    intro item hitem
    have hne : item ≠ "" := fun heq => h (heq ▸ hitem)
    simpa using hne
  rw [Text.joinNonEmpty, hkept]

/-- A column that is written is allowed, so it need not be looked up again. -/
theorem replacement_eq_written
    (hallowed : ∀ column ∈ columns, column ∈ wl.columns) :
    replacement wl columns onDuplicate =
      writtenReplacement columns onDuplicate := by
  have hreplaced : (onDuplicate.filter fun column =>
      wl.hasColumn column && columns.contains column) =
        onDuplicate.filter fun column => decide (column ∈ columns) := by
    apply List.filter_congr
    intro column _
    rw [Bool.eq_iff_iff, Bool.and_eq_true, Whitelist.hasColumn_iff,
      List.contains_iff_mem, decide_eq_true_iff]
    exact and_iff_right_of_imp (hallowed column)
  simp only [replacement, writtenReplacement, hreplaced, List.isEmpty_iff]

theorem text_eq_written (hallowed : ∀ column ∈ columns, column ∈ wl.columns)
    (hnamed : "" ∉ columns) (count : ℕ) :
    text wl table columns onDuplicate count =
      written table columns onDuplicate count := by
  have hmarks : Text.questionMarks columns.length =
      ", ".intercalate (columns.map fun _ => "?") := by
    rw [Text.questionMarks, List.map_const']
  unfold text written
  rw [joinNonEmpty_of_not_mem hnamed, hmarks, replacement_eq_written hallowed]

end Insert

/-! ## Endings of an insertion -/

theorem Whitelist.outcome_checkTable_bind {wl : Whitelist} {table : String}
    (htable : table ∈ wl.tables) {α : Type} (f : Unit → Audited BuildError α) :
    (wl.checkTable table >>= f).outcome = (f ()).outcome := by
  rw [Audited.outcome_bind, outcome_checkTable,
    if_pos (hasTable_iff.mpr htable)]
  rfl

theorem Whitelist.outcome_checkTable_bind_of_not_mem {wl : Whitelist}
    {table : String} (htable : table ∉ wl.tables) {α : Type}
    (f : Unit → Audited BuildError α) :
    (wl.checkTable table >>= f).outcome = .error (.tableNotAllowed table) := by
  have hrefused : ¬wl.hasTable table = true :=
    fun h => htable (hasTable_iff.mp h)
  rw [Audited.outcome_bind, outcome_checkTable, if_neg hrefused]
  rfl

section

variable {wl : Whitelist} {table : String} {rows : List Record}
  {onDuplicate : List String}

theorem insertRows_of_leadingColumns_eq_nil (htable : table ∈ wl.tables)
    (hcolumns : Insert.leadingColumns wl rows = []) :
    (insertRows wl table rows onDuplicate).outcome =
      .error .noInsertableColumns := by
  refine (Whitelist.outcome_checkTable_bind htable _).trans ?_
  match rows with
  | [] => rfl
  | first :: _ =>
      have hempty : (Insert.columnsOf wl first).isEmpty = true :=
        List.isEmpty_iff.mpr hcolumns
      exact congrArg Audited.outcome (if_pos hempty)

/-- Once there are columns to write, only the rows decide. -/
theorem outcome_insertRows (htable : table ∈ wl.tables)
    (hcolumns : Insert.leadingColumns wl rows ≠ []) :
    (insertRows wl table rows onDuplicate).outcome =
      match rows.findIdx? fun row =>
        !Insert.fits wl (Insert.leadingColumns wl rows) row with
      | some i => .error (.rowSchema i)
      | none =>
        .ok ⟨Insert.text wl table (Insert.leadingColumns wl rows) onDuplicate
            rows.length,
          rows.flatMap (Insert.valuesOf (Insert.leadingColumns wl rows))⟩ := by
  refine (Whitelist.outcome_checkTable_bind htable _).trans ?_
  match rows with
  | [] => exact absurd rfl hcolumns
  | first :: rest =>
      have hsome : ¬(Insert.columnsOf wl first).isEmpty = true :=
        fun hempty => hcolumns (List.isEmpty_iff.mp hempty)
      refine (congrArg Audited.outcome (if_neg hsome)).trans ?_
      dsimp only [Insert.leadingColumns]
      generalize (first :: rest).findIdx? _ = deviating
      match deviating with
      | some i => rfl
      | none => rfl

theorem insertRows_of_isFirstDeviation (htable : table ∈ wl.tables)
    (hcolumns : Insert.leadingColumns wl rows ≠ []) {i : ℕ}
    (hi : Insert.IsFirstDeviation wl rows i) :
    (insertRows wl table rows onDuplicate).outcome =
      .error (.rowSchema i) := by
  rw [outcome_insertRows htable hcolumns,
    Insert.findIdx?_deviation_iff.mpr hi]

theorem insertRows_of_hasColumns (htable : table ∈ wl.tables)
    (hcolumns : Insert.leadingColumns wl rows ≠ [])
    (hrows : ∀ row ∈ rows,
      Insert.HasColumns wl (Insert.leadingColumns wl rows) row) :
    (insertRows wl table rows onDuplicate).outcome =
      .ok ⟨Insert.text wl table (Insert.leadingColumns wl rows) onDuplicate
          rows.length,
        rows.flatMap (Insert.valuesOf (Insert.leadingColumns wl rows))⟩ := by
  have hnone : (rows.findIdx? fun row =>
      !Insert.fits wl (Insert.leadingColumns wl rows) row) = none := by
    rw [List.findIdx?_eq_none_iff]
    intro row hrow
    rw [Bool.not_eq_false',
      Insert.fits_iff_hasColumns (Insert.nodup_leadingColumns wl rows)]
    exact hrows row hrow
  rw [outcome_insertRows htable hcolumns, hnone]

end

/-- A single row cannot deviate from the first one. -/
theorem insertRow_ne_rowSchema (wl : Whitelist) (table : String) (row : Record)
    (onDuplicate : List String) (i : ℕ) :
    (insertRow wl table row onDuplicate).outcome ≠ .error (.rowSchema i) := by
  rw [insertRow]
  by_cases htable : table ∈ wl.tables
  · by_cases hcolumns : Insert.leadingColumns wl [row] = []
    · simp [insertRows_of_leadingColumns_eq_nil htable hcolumns]
    · have hrows : ∀ other ∈ [row],
          Insert.HasColumns wl (Insert.leadingColumns wl [row]) other := by
        intro other hother column
        rw [List.mem_singleton.mp hother, Insert.leadingColumns]
      simp [insertRows_of_hasColumns htable hcolumns hrows]
  · have hrefused :
        (insertRows wl table [row] onDuplicate).outcome =
          .error (.tableNotAllowed table) :=
      Whitelist.outcome_checkTable_bind_of_not_mem htable _
    simp [hrefused]

/-! ## Insertions -/

/-- An insertion is refused for its table, for want of columns, or for the
first row whose allowed columns are not those of the first row.  Otherwise each
row binds its value for each column in its place.  When all columns have a
name, the text lists them, has a group of placeholders for every row and
replaces the columns asked for that are among them.  A single row is the case
of one, and it is never refused for its columns. -/
theorem insertion_places_every_value (wl : Whitelist) (table : String)
    (rows : List Record) (onDuplicate : List String) :
    let columns := Insert.leadingColumns wl rows
    let outcome := (insertRows wl table rows onDuplicate).outcome
    (table ∉ wl.tables → outcome = .error (.tableNotAllowed table)) ∧
    (table ∈ wl.tables → columns = [] →
      outcome = .error .noInsertableColumns) ∧
    (table ∈ wl.tables → columns ≠ [] →
      (∀ i, Insert.IsFirstDeviation wl rows i →
        outcome = .error (.rowSchema i)) ∧
      ((∀ row ∈ rows, Insert.HasColumns wl columns row) →
        ∃ s, outcome = .ok s ∧ Insert.PlacesValues columns rows s.args ∧
          ("" ∉ columns →
            s.sql = Insert.written table columns onDuplicate rows.length))) ∧
    ∀ row, insertRow wl table row onDuplicate =
        insertRows wl table [row] onDuplicate ∧
      ∀ i, (insertRow wl table row onDuplicate).outcome ≠
        .error (.rowSchema i) := by
  intro columns outcome
  refine ⟨?_, ?_, ?_, ?_⟩
  · intro htable
    exact Whitelist.outcome_checkTable_bind_of_not_mem htable _
  · intro htable hcolumns
    exact insertRows_of_leadingColumns_eq_nil htable hcolumns
  · intro htable hcolumns
    refine ⟨fun i => insertRows_of_isFirstDeviation htable hcolumns, ?_⟩
    intro hrows
    refine ⟨_, insertRows_of_hasColumns htable hcolumns hrows, ?_, ?_⟩
    · exact Insert.placesValues_flatMap
        (Insert.nodup_leadingColumns wl rows) hrows
    · intro hnamed
      exact Insert.text_eq_written
        (fun _ => Insert.mem_columns_of_mem_leadingColumns) hnamed rows.length
  · intro row
    exact ⟨rfl, insertRow_ne_rowSchema wl table row onDuplicate⟩

/-- Two rows with their keys in different orders and with keys that are not
allowed.  A third row lacks a column. -/
theorem insertion_places_every_value_reordered :
    let wl := Whitelist.ofLists ["users"] ["id", "name", "note"]
    let ann : Record :=
      .ofList [("name", .text "ann"), ("age", .int 30), ("id", .int 1)]
    let bob : Record :=
      .ofList [("id", .int 2), ("role", .null), ("name", .text "bob")]
    let short : Record := .ofList [("id", .int 3), ("age", .int 40)]
    let rows := [ann, bob]
    "users" ∈ wl.tables ∧ Insert.leadingColumns wl rows = ["name", "id"] ∧
      (∀ row ∈ rows, Insert.HasColumns wl ["name", "id"] row) ∧
      (∃ s, (insertRows wl "users" rows ["age", "id", "note", "id"]).outcome =
          .ok s ∧
        s.sql = "INSERT INTO users (name, id) VALUES (?, ?), (?, ?)" ++
          " ON DUPLICATE KEY UPDATE id = VALUES(id), id = VALUES(id)" ∧
        s.args.length = 4 ∧ s.args[2]? = some (.text "bob") ∧
        s.args[3]? = some (.int 2)) ∧
      Insert.IsFirstDeviation wl (rows ++ [short]) 2 ∧
      (insertRows wl "users" (rows ++ [short]) []).outcome =
        .error (.rowSchema 2) := by
  intro wl ann bob short rows
  have htable : "users" ∈ wl.tables := by decide
  have hcolumns : Insert.leadingColumns wl rows = ["name", "id"] := rfl
  have hsome : Insert.leadingColumns wl rows ≠ [] := List.cons_ne_nil _ _
  have hnamed : "" ∉ Insert.leadingColumns wl rows := by decide
  have hfits : ∀ row ∈ rows, Insert.HasColumns wl ["name", "id"] row := by
    intro row hrow
    rw [← Insert.fits_iff_hasColumns (by decide)]
    revert row
    decide
  have hdeviates : Insert.IsFirstDeviation wl (rows ++ [short]) 2 :=
    Insert.findIdx?_deviation_iff.mp rfl
  obtain ⟨-, -, hlisted, -⟩ := insertion_places_every_value wl "users" rows
    ["age", "id", "note", "id"]
  obtain ⟨s, hs, ⟨hlength, hplaced⟩, hsql⟩ := (hlisted htable hsome).2 hfits
  obtain ⟨-, -, hrefused, -⟩ := insertion_places_every_value wl "users"
    (rows ++ [short]) []
  refine ⟨htable, hcolumns, hfits, ⟨s, hs, ?_, hlength, ?_, ?_⟩, hdeviates, ?_⟩
  · exact (hsql hnamed).trans (by decide)
  · obtain ⟨v, hv, harg⟩ := hplaced 1 0 bob "name" rfl rfl
    cases hv
    exact harg
  · obtain ⟨v, hv, harg⟩ := hplaced 1 1 bob "id" rfl rfl
    cases hv
    exact harg
  · exact (hrefused htable (List.cons_ne_nil _ _)).1 2 hdeviates

end GuardedSql
