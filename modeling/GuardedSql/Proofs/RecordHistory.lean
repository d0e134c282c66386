import GuardedSql.Proofs.Rows
import GuardedSql.Proofs.SearchedColumns
import Mathlib.Data.Finset.Card

/-!
# What a record remembers

Only the entries that a record is built from and their order count, not the
functions that they were given to: the record has every column that was ever
set, once, in the order of the first entries, and for each of them the value of
the last entry.
-/

namespace GuardedSql

/-! ## Histories -/

namespace Entries

/-- The last entry of a history for a column has the given value. -/
def LastSets (history : Entries) (column : String) (value : Value) : Prop :=
  ∃ before after, history = before ++ (column, value) :: after ∧
    column ∉ keys after

section

variable {history entries : Entries} {column : String}
  {entry : String × Value}

theorem mem_keys_concat :
    column ∈ keys (history ++ [entry]) ↔
      column ∈ history.keys ∨ entry.1 = column := by
  rw [keys, List.map_append, List.mem_append, List.map_singleton,
    List.mem_singleton, keys, eq_comm (a := column)]

theorem lastSets_concat {value : Value} :
    LastSets (history ++ [entry]) column value ↔
      if entry.1 = column then entry.2 = value
      else history.LastSets column value := by
  constructor
  · rintro ⟨before, after, hhistory, hafter⟩
    rcases List.eq_nil_or_concat after with rfl | ⟨others, last, rfl⟩
    · obtain ⟨-, hentry⟩ := List.append_inj' hhistory rfl
      obtain rfl := List.singleton_inj.mp hentry
      rw [if_pos rfl]
    · rw [List.concat_eq_append] at hhistory hafter
      rw [← List.cons_append, ← List.append_assoc] at hhistory
      obtain ⟨hbefore, hentry⟩ := List.append_inj' hhistory rfl
      obtain rfl := List.singleton_inj.mp hentry
      rw [mem_keys_concat, not_or] at hafter
      rw [if_neg hafter.2]
      exact ⟨before, others, hbefore, hafter.1⟩
  · intro h
    by_cases hcolumn : entry.1 = column
    · rw [if_pos hcolumn] at h
      obtain rfl := hcolumn
      obtain rfl := h
      exact ⟨history, [], rfl, List.not_mem_nil⟩
    · rw [if_neg hcolumn] at h
      obtain ⟨before, after, rfl, hafter⟩ := h
      refine ⟨before, after ++ [entry], ?_, ?_⟩
      · rw [List.append_assoc, List.cons_append]
      · rw [mem_keys_concat, not_or]
        exact ⟨hafter, hcolumn⟩

/-- Setting a column that is there changes its entry and no other one. -/
theorem put_of_mem (hnodup : entries.keys.Nodup) (h : column ∈ entries.keys)
    (value : Value) :
    entries.put column value = entries.map fun entry =>
      if entry.1 = column then (column, value) else entry := by
  induction entries with
  | nil => exact absurd h List.not_mem_nil
  | cons entry rest ih =>
      obtain ⟨hfresh, hrest⟩ := List.nodup_cons.mp hnodup
      rw [put, List.map_cons]
      by_cases hcolumn : entry.1 = column
      · obtain rfl := hcolumn
        have hkept : (rest.map fun other =>
            if other.1 = entry.1 then (entry.1, value) else other) = rest := by
          refine (List.map_congr_left fun other hother => ?_).trans
            (List.map_id rest)
          exact if_neg fun heq =>
            hfresh (List.mem_map.mpr ⟨other, hother, heq⟩)
        rw [if_pos rfl, if_pos rfl, hkept]
      · have hmem : column ∈ keys rest :=
          (List.mem_cons.mp h).resolve_left fun heq => hcolumn heq.symm
        rw [if_neg hcolumn, if_neg hcolumn, ih hrest hmem]

theorem put_of_not_mem (h : column ∉ entries.keys) (value : Value) :
    entries.put column value = entries ++ [(column, value)] := by
  induction entries with
  | nil => rfl
  | cons entry rest ih =>
      rw [keys_cons, List.mem_cons, not_or] at h
      rw [put, if_neg (Ne.symm h.1), ih h.2, List.cons_append]

end

end Entries

namespace Record

/-- A record has the columns of a history in the order of their first entries,
each of them once and with the value of its last entry. -/
structure Remembers (r : Record) (history : Entries) : Prop where
  nodup : r.keys.Nodup
  ordered : r.keys.Pairwise
    (StartsBefore (fun entry column => entry.1 = column) history)
  mem_keys_iff : ∀ column, column ∈ r.keys ↔ column ∈ history.keys
  get?_eq_some_iff : ∀ column value,
    r.get? column = some value ↔ history.LastSets column value

theorem remembers_empty : empty.Remembers [] where
  nodup := empty.nodup
  ordered := List.Pairwise.nil
  mem_keys_iff _ := Iff.rfl
  get?_eq_some_iff column value := by
    constructor
    · intro h
      cases h
    · rintro ⟨before, after, hnil, -⟩
      exact absurd hnil.symm (by simp)

/-! ## One more entry -/

theorem entries_insert (r : Record) (column : String) (value : Value) :
    (r.insert column value).entries =
      if column ∈ r.keys then
        r.entries.map fun entry =>
          if entry.1 = column then (column, value) else entry
      else r.entries ++ [(column, value)] := by
  by_cases hmem : column ∈ r.keys
  · rw [if_pos hmem]
    exact Entries.put_of_mem r.nodup hmem value
  · rw [if_neg hmem]
    exact Entries.put_of_not_mem hmem value

theorem Remembers.insert {r : Record} {history : Entries}
    (h : r.Remembers history) (column : String) (value : Value) :
    (r.insert column value).Remembers (history ++ [(column, value)]) where
  nodup := (r.insert column value).nodup
  ordered := by
    rw [keys_insert]
    by_cases hmem : column ∈ r.keys
    · rw [if_pos hmem]
      exact h.ordered.imp fun hab => hab.append _
    · rw [if_neg hmem]
      rw [h.mem_keys_iff] at hmem
      refine pairwise_startsBefore_concat h.ordered ?_ ?_ rfl
      · intro other hother
        exact List.mem_map.mp ((h.mem_keys_iff other).mp hother)
      · intro entry hentry hcolumn
        exact hmem (List.mem_map.mpr ⟨entry, hentry, hcolumn⟩)
  mem_keys_iff other := by
    rw [Entries.mem_keys_concat, ← h.mem_keys_iff, keys_insert]
    by_cases hmem : column ∈ r.keys
    · rw [if_pos hmem]
      exact (or_iff_left_of_imp fun heq => heq ▸ hmem).symm
    · rw [if_neg hmem, List.mem_append, List.mem_singleton, eq_comm]
  get?_eq_some_iff other value' := by
    rw [Entries.lastSets_concat, get?_insert]
    by_cases hcolumn : column = other
    · rw [if_pos hcolumn, if_pos hcolumn, Option.some.injEq]
    · rw [if_neg hcolumn, if_neg hcolumn]
      exact h.get?_eq_some_iff other value'

/-! ## All entries -/

theorem ofList_concat (history : Entries) (entry : String × Value) :
    ofList (history ++ [entry]) = (ofList history).insert entry.1 entry.2 := by
  rw [ofList, List.foldl_append]
  rfl

theorem remembers_ofList (history : Entries) :
    (ofList history).Remembers history := by
  induction history using List.reverseRecOn with
  | nil => exact remembers_empty
  | append_singleton history entry ih =>
      rw [ofList_concat]
      exact ih.insert entry.1 entry.2

/-- A way to build a record: from nothing, from a list of entries, or by setting
a column in one that is built before. -/
inductive Construction where
  | empty
  | ofList (entries : Entries)
  | insert (before : Construction) (column : String) (value : Value)

namespace Construction

def build : Construction → Record
  | empty => .empty
  | ofList entries => .ofList entries
  | insert before column value => before.build.insert column value

/-- The entries that a record is built from, in the order in which they are
given. -/
def history : Construction → Entries
  | empty => []
  | ofList entries => entries
  | insert before column value => before.history ++ [(column, value)]

/-- Only the entries count, not the way in which they are given. -/
theorem build_eq_ofList (c : Construction) :
    c.build = Record.ofList c.history := by
  induction c with
  | empty => rfl
  | ofList entries => rfl
  | insert before column value ih => rw [build, history, ofList_concat, ih]

theorem remembers_build (c : Construction) : c.build.Remembers c.history := by
  rw [build_eq_ofList]
  exact remembers_ofList c.history

end Construction

variable {r : Record} {history : Entries}

theorem get?_eq_none_iff {column : String} :
    r.get? column = none ↔ column ∉ r.keys := by
  rw [← isSome_get?_iff, Option.not_isSome_iff_eq_none]

theorem Remembers.size_eq (h : r.Remembers history) :
    r.size = history.keys.toFinset.card := by
  have hcolumns : history.keys.toFinset = r.keys.toFinset := by
    ext column
    rw [List.mem_toFinset, List.mem_toFinset, h.mem_keys_iff]
  rw [hcolumns, List.toFinset_card_of_nodup h.nodup, length_keys]
  rfl

end Record

/-- However a record is built, it has the columns that were set, in the order in
which they were first set, and for each of them the value that was set last; no
other column has a value.  Setting a column once more replaces its value where
it stands and nothing else, and a new column stands after all others. -/
theorem records_remember_history (c : Record.Construction) :
    c.build.Remembers c.history ∧
      (∀ column, c.build.get? column = none ↔ column ∉ c.history.keys) ∧
      (∀ column, c.build.contains column = true ↔ column ∈ c.build.keys) ∧
      c.build.size = c.history.keys.toFinset.card ∧
      ∀ column value, (c.build.insert column value).entries =
        if column ∈ c.build.keys then
          c.build.entries.map fun entry =>
            if entry.1 = column then (column, value) else entry
        else c.build.entries ++ [(column, value)] := by
  have hbuild := c.remembers_build
  refine ⟨hbuild, ?_, ?_, hbuild.size_eq, c.build.entries_insert⟩
  · intro column
    rw [Record.get?_eq_none_iff, hbuild.mem_keys_iff]
  · intro column
    exact Record.isSome_get?_iff

example :
    let c : Record.Construction :=
      .insert (.ofList [("a", .int 1), ("b", .int 2), ("a", .int 3)]) "b" .null
    c.build.entries = [("a", .int 3), ("b", .null)] := rfl

end GuardedSql
