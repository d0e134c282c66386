import GuardedSql.Proofs.Insertions

/-!
# Columns that are not listed

What a row holds under a column that is not listed is neither compared nor
bound, and of the rows after the first one not even the order of the columns is
seen.  The statement of an insertion stays the same without these columns, and
so do the errors and the events.
-/

namespace GuardedSql

/-! ## Entries in another order -/

namespace Entries

theorem mem_iff_get?_eq_some {entries : Entries} (hnodup : entries.keys.Nodup)
    {column : String} {v : Value} :
    (column, v) ∈ entries ↔ entries.get? column = some v := by
  induction entries with
  | nil => simp [get?]
  | cons entry rest ih =>
      obtain ⟨hfresh, hrest⟩ := List.nodup_cons.mp hnodup
      rw [get?, List.mem_cons]
      by_cases hcolumn : entry.1 = column
      · obtain rfl := hcolumn
        have hnot : (entry.1, v) ∉ rest := fun hmem =>
          hfresh (List.mem_map.mpr ⟨_, hmem, rfl⟩)
        rw [if_pos rfl, or_iff_left hnot, Option.some.injEq]
        constructor
        · intro heq
          rw [← heq]
        · rintro rfl
          rfl
      · have hne : (column, v) ≠ entry := fun heq =>
          hcolumn (congrArg Prod.fst heq).symm
        rw [if_neg hcolumn, or_iff_right hne, ih hrest]

/-- The order of the entries does not matter for the value of a column. -/
theorem get?_eq_of_perm {entries entries' : Entries}
    (hnodup : entries.keys.Nodup) (h : entries.Perm entries')
    (column : String) : entries.get? column = entries'.get? column := by
  have hnodup' : entries'.keys.Nodup := (h.map Prod.fst).nodup_iff.mp hnodup
  ext v
  rw [← mem_iff_get?_eq_some hnodup, ← mem_iff_get?_eq_some hnodup', h.mem_iff]

end Entries

namespace Record

def listed (wl : Whitelist) (r : Record) : Record where
  entries := r.entries.filter fun entry => wl.hasColumn entry.1
  nodup := r.nodup.sublist (List.filter_sublist.map Prod.fst)

/-- Two records have the same listed columns, in some order, and the same values
for them. -/
structure SameListed (wl : Whitelist) (r r' : Record) : Prop where
  columns : (Insert.columnsOf wl r).Perm (Insert.columnsOf wl r')
  values : ∀ column ∈ wl.columns, r.get? column = r'.get? column

variable {wl : Whitelist} {r r' : Record}

theorem columnsOf_listed (wl : Whitelist) (r : Record) :
    Insert.columnsOf wl (r.listed wl) = Insert.columnsOf wl r := by
  have hkeys : (r.listed wl).keys = r.keys.filter wl.hasColumn := by
    rw [keys, keys, Entries.keys, Entries.keys, List.filter_map]
    rfl
  rw [Insert.columnsOf, hkeys, List.filter_filter]
  simp only [Bool.and_self, Insert.columnsOf]

theorem get?_listed {column : String} (hcolumn : column ∈ wl.columns) :
    (r.listed wl).get? column = r.get? column := by
  ext v
  rw [get?, get?, ← Entries.mem_iff_get?_eq_some (r.listed wl).nodup,
    ← Entries.mem_iff_get?_eq_some r.nodup, listed, List.mem_filter]
  exact and_iff_left (Whitelist.hasColumn_iff.mpr hcolumn)

theorem sameListed_refl (wl : Whitelist) (r : Record) : r.SameListed wl r :=
  ⟨.refl _, fun _ _ => rfl⟩

theorem sameListed_listed (wl : Whitelist) (r : Record) :
    r.SameListed wl (r.listed wl) := by
  constructor
  · rw [columnsOf_listed]
  · intro column hcolumn
    exact (get?_listed hcolumn).symm

theorem sameListed_of_perm (wl : Whitelist) (h : r.entries.Perm r'.entries) :
    r.SameListed wl r' := by
  constructor
  · exact (h.map Prod.fst).filter wl.hasColumn
  · intro column _
    exact Entries.get?_eq_of_perm r.nodup h column

end Record

/-! ## Insertions of rows that look the same -/

namespace Insert

variable {wl : Whitelist} {columns onDuplicate : List String}
  {row row' : Record}

theorem fits_eq_of_sameListed (h : row.SameListed wl row')
    (columns : List String) : fits wl columns row = fits wl columns row' := by
  rw [fits, fits, h.columns.length_eq, h.columns.all_eq]

theorem valuesOf_eq_of_sameListed (h : row.SameListed wl row')
    (hcolumns : ∀ column ∈ columns, column ∈ wl.columns) :
    valuesOf columns row = valuesOf columns row' :=
  List.filterMap_congr fun column hcolumn =>
    h.values column (hcolumns column hcolumn)

theorem flatMap_valuesOf_eq_of_sameListed {rows rows' : List Record}
    (h : List.Forall₂ (Record.SameListed wl) rows rows')
    (hcolumns : ∀ column ∈ columns, column ∈ wl.columns) :
    rows.flatMap (valuesOf columns) = rows'.flatMap (valuesOf columns) := by
  induction h with
  | nil => rfl
  | cons hrow _ ih =>
      rw [List.flatMap_cons, List.flatMap_cons, ih,
        valuesOf_eq_of_sameListed hrow hcolumns]

theorem replacement_filter_hasColumn :
    replacement wl columns (onDuplicate.filter wl.hasColumn) =
      replacement wl columns onDuplicate := by
  have hreplaced : (onDuplicate.filter wl.hasColumn).filter
      (fun c => wl.hasColumn c && columns.contains c) =
        onDuplicate.filter fun c => wl.hasColumn c && columns.contains c := by
    rw [List.filter_filter]
    apply List.filter_congr
    intro column _
    rw [Bool.and_right_comm, Bool.and_self]
  rw [replacement, replacement, hreplaced]

theorem text_eq_append_replacement {table : String} {rows : ℕ} :
    text wl table columns onDuplicate rows =
      text wl table columns [] rows ++ replacement wl columns onDuplicate := by
  have hnone : ∀ before : String,
      before ++ replacement wl columns [] = before :=
    fun _ => String.append_empty
  exact congrArg (· ++ replacement wl columns onDuplicate) (hnone _).symm

theorem text_filter_hasColumn {table : String} {rows : ℕ} :
    text wl table columns (onDuplicate.filter wl.hasColumn) rows =
      text wl table columns onDuplicate rows := by
  rw [text_eq_append_replacement, replacement_filter_hasColumn,
    ← text_eq_append_replacement]

/-- Every bound value is that of some row for some column. -/
theorem PlacesValues.exists_of_getElem? {rows : List Record} {args : List Value}
    (h : PlacesValues columns rows args) {k : ℕ} {v : Value}
    (hv : args[k]? = some v) :
    ∃ row column, rows[k / columns.length]? = some row ∧
      columns[k % columns.length]? = some column ∧
      row.get? column = some v := by
  obtain ⟨hlength, hplaced⟩ := h
  obtain ⟨hk, -⟩ := List.getElem?_eq_some_iff.mp hv
  rw [hlength] at hk
  have hsome : 0 < columns.length := Nat.pos_of_lt_mul_left hk
  have hrow : k / columns.length < rows.length :=
    (Nat.div_lt_iff_lt_mul hsome).mpr hk
  have hcolumn : k % columns.length < columns.length := Nat.mod_lt k hsome
  have hrow' := List.getElem?_eq_getElem hrow
  have hcolumn' := List.getElem?_eq_getElem hcolumn
  obtain ⟨v', hv', harg⟩ := hplaced _ _ _ _ hrow' hcolumn'
  rw [Nat.div_add_mod', hv] at harg
  obtain rfl := Option.some.inj harg
  exact ⟨_, _, hrow', hcolumn', hv'⟩

end Insert

section

variable {wl : Whitelist} {table : String} {onDuplicate : List String}

theorem insertRows_eq_of_sameListed {first first' : Record}
    {rest rest' : List Record}
    (hfirst : Insert.columnsOf wl first = Insert.columnsOf wl first')
    (h : List.Forall₂ (Record.SameListed wl) (first :: rest)
      (first' :: rest')) :
    insertRows wl table (first :: rest) onDuplicate =
      insertRows wl table (first' :: rest') onDuplicate := by
  have hlisted : ∀ column ∈ Insert.columnsOf wl first', column ∈ wl.columns :=
    fun _ hcolumn => (Insert.mem_columnsOf.mp hcolumn).2
  have hfind := Insert.findIdx?_not_fits_eq <| h.imp fun _ _ hrow =>
    Insert.fits_eq_of_sameListed hrow (Insert.columnsOf wl first')
  have hargs := Insert.flatMap_valuesOf_eq_of_sameListed h hlisted
  simp only [insertRows, hfirst, hfind, hargs, h.length_eq]

theorem insertRows_filter_hasColumn (rows : List Record) :
    insertRows wl table rows (onDuplicate.filter wl.hasColumn) =
      insertRows wl table rows onDuplicate := by
  simp only [insertRows, Insert.text_filter_hasColumn]

end

/-- An insertion stays the same, errors and events included, when columns that
are not listed are removed from any of its rows, and when the entries of rows
other than the first are reordered.  Every value that it binds is that of a row
for a listed column.  The columns that are to be replaced are written if they
are inserted and left out otherwise, so those that are not listed need not be
asked for. -/
theorem unlisted_columns_invisible (wl : Whitelist) (table : String)
    (onDuplicate : List String) :
    (∀ rows rows', List.Forall₂
        (fun row row' => row' = row ∨ row' = row.listed wl) rows rows' →
      insertRows wl table rows' onDuplicate =
        insertRows wl table rows onDuplicate) ∧
    (∀ first rest rest', List.Forall₂
        (fun row row' : Record => row.entries.Perm row'.entries) rest rest' →
      insertRows wl table (first :: rest') onDuplicate =
        insertRows wl table (first :: rest) onDuplicate) ∧
    (∀ rows, insertRows wl table rows (onDuplicate.filter wl.hasColumn) =
      insertRows wl table rows onDuplicate) ∧
    ∀ rows s, (insertRows wl table rows onDuplicate).outcome = .ok s →
      let columns := Insert.leadingColumns wl rows
      (∀ column ∈ columns, column ∈ wl.columns) ∧
      (∀ k v, s.args[k]? = some v → ∃ row column,
        rows[k / columns.length]? = some row ∧
          columns[k % columns.length]? = some column ∧
          row.get? column = some v) ∧
      s.sql = Insert.text wl table columns [] rows.length ++
        Insert.writtenReplacement columns onDuplicate := by
  refine ⟨?_, ?_, insertRows_filter_hasColumn, ?_⟩
  · intro rows rows' h
    have hsame : List.Forall₂ (Record.SameListed wl) rows rows' := by
      refine h.imp fun row row' hrow => ?_
      rcases hrow with rfl | rfl
      · exact row'.sameListed_refl wl
      · exact row.sameListed_listed wl
    rcases h with _ | ⟨hfirst, _⟩
    · rfl
    · refine (insertRows_eq_of_sameListed ?_ hsame).symm
      rcases hfirst with rfl | rfl
      · rfl
      · exact (Record.columnsOf_listed wl _).symm
  · intro first rest rest' h
    refine (insertRows_eq_of_sameListed rfl (.cons ?_ ?_)).symm
    · exact first.sameListed_refl wl
    · exact h.imp fun _ _ => Record.sameListed_of_perm wl
  · intro rows s hs columns
    have hlisted : ∀ column ∈ columns, column ∈ wl.columns :=
      fun _ => Insert.mem_columns_of_mem_leadingColumns
    obtain ⟨first, rest, rfl, hfits, rfl⟩ := insertRows_eq_ok hs
    have hnodup := Insert.nodup_leadingColumns wl (first :: rest)
    refine ⟨hlisted, fun k v hv => ?_, ?_⟩
    · refine Insert.PlacesValues.exists_of_getElem? ?_ hv
      exact Insert.placesValues_flatMap hnodup fun row hrow =>
        (Insert.fits_iff_hasColumns hnodup).mp (hfits row hrow)
    · rw [← Insert.replacement_eq_written hlisted]
      exact Insert.text_eq_append_replacement

/-- A batch with unlisted columns in both rows, stripped of them and with the
second row reordered, and one whose second row lacks a column. -/
theorem unlisted_columns_invisible_batch :
    let wl := Whitelist.ofLists ["users"] ["id", "name"]
    let ann : Record :=
      .ofList [("name", .text "ann"), ("age", .int 30), ("id", .int 1)]
    let bob : Record :=
      .ofList [("id", .int 2), ("role", .null), ("name", .text "bob")]
    let bob' : Record :=
      .ofList [("role", .null), ("id", .int 2), ("name", .text "bob")]
    let short : Record := .ofList [("age", .int 40), ("id", .int 3)]
    let s : Statement :=
      ⟨"INSERT INTO users (name, id) VALUES (?, ?), (?, ?)" ++
        " ON DUPLICATE KEY UPDATE id = VALUES(id)",
        [.text "ann", .int 1, .text "bob", .int 2]⟩
    List.Forall₂ (fun row row' => row' = row ∨ row' = row.listed wl)
        [ann, bob] [ann.listed wl, bob] ∧
      bob.entries.Perm bob'.entries ∧
      (insertRows wl "users" [ann.listed wl, bob] ["age", "id"]).outcome =
        .ok s ∧
      (insertRows wl "users" [ann, bob'] ["age", "id"]).outcome = .ok s ∧
      (insertRows wl "users" [ann, bob] ["id"]).outcome = .ok s ∧
      (∃ row column, [ann, bob][1]? = some row ∧
        ["name", "id"][0]? = some column ∧
        row.get? column = some (.text "bob")) ∧
      (insertRows wl "users" [ann, short.listed wl] ["age", "id"]).outcome =
        .error (.rowSchema 1) := by
  intro wl ann bob bob' short s
  have hlisted : List.Forall₂ (fun row row' => row' = row ∨ row' = row.listed wl)
      [ann, bob] [ann.listed wl, bob] := .cons (.inr rfl) (.cons (.inl rfl) .nil)
  have hshort : List.Forall₂ (fun row row' => row' = row ∨ row' = row.listed wl)
      [ann, short] [ann, short.listed wl] :=
    .cons (.inl rfl) (.cons (.inr rfl) .nil)
  have hperm : bob.entries.Perm bob'.entries := .swap _ _ _
  have hs : (insertRows wl "users" [ann, bob] ["age", "id"]).outcome = .ok s :=
    rfl
  obtain ⟨hstripped, hreordered, hasked, hwritten⟩ :=
    unlisted_columns_invisible wl "users" ["age", "id"]
  obtain ⟨-, hbound, -⟩ := hwritten _ s hs
  have hcolumns : Insert.leadingColumns wl [ann, bob] = ["name", "id"] := rfl
  rw [hcolumns] at hbound
  refine ⟨hlisted, hperm, ?_, ?_, ?_, hbound 2 (.text "bob") rfl, ?_⟩
  · rw [hstripped _ _ hlisted, hs]
  · rw [hreordered ann [bob] [bob'] (.cons hperm .nil), hs]
  · exact (congrArg Audited.outcome (hasked [ann, bob])).trans hs
  · rw [hstripped _ _ hshort]
    rfl

end GuardedSql
