import GuardedSql.Value

/-!
# Records

A record is a row that is written to a table, or the conditions of an update or
a deletion.
-/

namespace GuardedSql

abbrev Entries := List (String × Value)

namespace Entries

def keys (entries : Entries) : List String :=
  entries.map Prod.fst

/-- Sets a column: in place if it is there, at the end otherwise. -/
def put : Entries → String → Value → Entries
  | [], column, value => [(column, value)]
  | entry :: rest, column, value =>
    if entry.1 = column then (column, value) :: rest
    else entry :: put rest column value

/-- The value of the first entry for a column. -/
def get? : Entries → String → Option Value
  | [], _ => none
  | entry :: rest, column =>
    if entry.1 = column then some entry.2 else get? rest column

@[simp]
theorem keys_cons (entry : String × Value) (rest : Entries) :
    keys (entry :: rest) = entry.1 :: keys rest := rfl

theorem keys_put (entries : Entries) (column : String) (value : Value) :
    (entries.put column value).keys =
      if column ∈ entries.keys then entries.keys
      else entries.keys ++ [column] := by
  induction entries with
  | nil => simp [put, keys]
  | cons entry rest ih =>
    by_cases h : entry.1 = column
    · simp [put, h]
    · have h' : column ≠ entry.1 := fun e => h e.symm
      by_cases hm : column ∈ keys rest <;> simp [put, h, h', ih, hm]

theorem get?_put (entries : Entries) (column other : String) (value : Value) :
    (entries.put column value).get? other =
      if column = other then some value else entries.get? other := by
  induction entries with
  | nil => simp [put, get?]
  | cons entry rest ih =>
    by_cases h : entry.1 = column
    · by_cases h' : column = other <;> simp [put, get?, h, h']
    · by_cases h' : entry.1 = other
      · have h'' : other ≠ column := fun e => h (h'.trans e)
        simp [put, get?, h', h'', h''.symm]
      · simp [put, get?, h, h', ih]

theorem nodup_keys_put {entries : Entries} (h : entries.keys.Nodup)
    (column : String) (value : Value) :
    (entries.put column value).keys.Nodup := by
  rw [keys_put]
  split
  · exact h
  · rename_i hm
    refine List.nodup_append.2 ⟨h, by simp, ?_⟩
    intro a ha b hb
    rw [List.mem_singleton.1 hb]
    exact fun e => hm (e ▸ ha)

end Entries

/-- A value for each of finitely many columns, in the order in which the columns
were first set. -/
structure Record where
  entries : Entries
  nodup : entries.keys.Nodup

namespace Record

def empty : Record :=
  ⟨[], List.nodup_nil⟩

instance : Inhabited Record :=
  ⟨empty⟩

/-- Records agree when they have the same columns in the same order with values
that agree. -/
instance : BEq Record :=
  ⟨fun a b => a.entries == b.entries⟩

/-- Sets a column to a value: in place if the record has the column, at the end
otherwise. -/
def insert (r : Record) (column : String) (value : Value) : Record :=
  ⟨r.entries.put column value, Entries.nodup_keys_put r.nodup column value⟩

/-- The record made by setting the columns of a list one after the other. -/
def ofList (entries : Entries) : Record :=
  entries.foldl (fun r entry => r.insert entry.1 entry.2) empty

def get? (r : Record) (column : String) : Option Value :=
  r.entries.get? column

def contains (r : Record) (column : String) : Bool :=
  (r.get? column).isSome

def keys (r : Record) : List String :=
  r.entries.keys

/-- The values, in the order of the columns. -/
def values (r : Record) : List Value :=
  r.entries.map Prod.snd

def size (r : Record) : Nat :=
  r.entries.length

def isEmpty (r : Record) : Bool :=
  r.entries.isEmpty

theorem keys_insert (r : Record) (column : String) (value : Value) :
    (r.insert column value).keys =
      if column ∈ r.keys then r.keys else r.keys ++ [column] :=
  Entries.keys_put r.entries column value

theorem get?_insert (r : Record) (column other : String) (value : Value) :
    (r.insert column value).get? other =
      if column = other then some value else r.get? other :=
  Entries.get?_put r.entries column other value

end Record

end GuardedSql
