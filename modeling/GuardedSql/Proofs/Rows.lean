import GuardedSql.Insert
import Mathlib.Data.List.Forall2
import Mathlib.Data.List.Perm.Subperm

/-!
# Rows of an insertion

A row that fits the columns of an insertion has a value for each of them, so
it contributes as many arguments as there are columns.  How many values a row
has for given columns depends on its keys alone.
-/

namespace GuardedSql

theorem Entries.isSome_get?_iff {entries : Entries} {column : String} :
    (entries.get? column).isSome = true ↔ column ∈ entries.keys := by
  induction entries with
  | nil => simp [get?, keys]
  | cons entry rest ih =>
      by_cases h : entry.1 = column
      · simp [get?, h]
      · have h' : column ≠ entry.1 := fun heq => h heq.symm
        simp only [get?, if_neg h, keys_cons, List.mem_cons, h', false_or]
        exact ih

namespace Record

theorem isSome_get?_iff {r : Record} {column : String} :
    (r.get? column).isSome = true ↔ column ∈ r.keys :=
  Entries.isSome_get?_iff

theorem length_keys (r : Record) : r.keys.length = r.entries.length :=
  List.length_map _

theorem length_values (r : Record) : r.values.length = r.keys.length := by
  rw [length_keys]
  exact List.length_map _

theorem isEmpty_iff_keys_eq_nil {r : Record} :
    r.isEmpty = true ↔ r.keys = [] := by
  unfold isEmpty keys Entries.keys
  rw [List.isEmpty_iff, List.map_eq_nil_iff]

end Record

namespace Insert

theorem length_valuesOf (columns : List String) (row : Record) :
    (valuesOf columns row).length =
      columns.countP fun column => decide (column ∈ row.keys) := by
  unfold valuesOf
  rw [List.length_filterMap_eq_countP]
  congr 1
  funext column
  rw [Bool.eq_iff_iff, Record.isSome_get?_iff, decide_eq_true_iff]

theorem nodup_columnsOf (wl : Whitelist) (row : Record) :
    (columnsOf wl row).Nodup :=
  row.nodup.filter _

theorem mem_columnsOf {wl : Whitelist} {row : Record} {column : String} :
    column ∈ columnsOf wl row ↔ column ∈ row.keys ∧ column ∈ wl.columns := by
  unfold columnsOf
  rw [List.mem_filter, Whitelist.hasColumn_iff]

/-- The allowed columns of a fitting row are the given ones in some order.
Equal length and inclusion suffice since a row has no column twice. -/
theorem perm_columnsOf_of_fits {wl : Whitelist} {columns : List String}
    {row : Record} (h : fits wl columns row = true) :
    (columnsOf wl row).Perm columns := by
  unfold fits at h
  dsimp only at h
  rw [Bool.and_eq_true, beq_iff_eq, List.all_eq_true] at h
  obtain ⟨hlength, hall⟩ := h
  have hsubset : columnsOf wl row ⊆ columns := by
    intro column hcolumn
    exact List.contains_iff_mem.mp (hall column hcolumn)
  have hsubperm := (nodup_columnsOf wl row).subperm hsubset
  exact hsubperm.perm_of_length_le (Nat.le_of_eq hlength.symm)

theorem length_valuesOf_of_fits {wl : Whitelist} {columns : List String}
    {row : Record} (h : fits wl columns row = true) :
    (valuesOf columns row).length = columns.length := by
  rw [length_valuesOf, List.countP_eq_length]
  intro column hcolumn
  have hown := (perm_columnsOf_of_fits h).mem_iff.mpr hcolumn
  exact decide_eq_true (mem_columnsOf.mp hown).1

/-- The search for a row that does not fit looks at the rows one by one. -/
theorem findIdx?_not_fits_eq {wl : Whitelist} {columns : List String}
    {rows rows' : List Record}
    (h : List.Forall₂ (fun r r' => fits wl columns r = fits wl columns r')
      rows rows') :
    (rows.findIdx? fun row => !fits wl columns row) =
      rows'.findIdx? fun row => !fits wl columns row := by
  induction h with
  | nil => rfl
  | cons hrow _ ih => rw [List.findIdx?_cons, List.findIdx?_cons, ih, hrow]

/-- Fitting rows contribute one argument for each row and column. -/
theorem length_flatMap_valuesOf {wl : Whitelist} {columns : List String}
    {rows : List Record} (h : ∀ row ∈ rows, fits wl columns row = true) :
    (rows.flatMap (valuesOf columns)).length =
      rows.length * columns.length := by
  induction rows with
  | nil => simp
  | cons row rest ih =>
      have hrow := length_valuesOf_of_fits (h row List.mem_cons_self)
      have hrest := ih fun r hr => h r (List.mem_cons_of_mem row hr)
      rw [List.flatMap_cons, List.length_append, hrow, hrest,
        List.length_cons, Nat.add_mul, Nat.one_mul, Nat.add_comm]

end Insert

end GuardedSql
