import GuardedSql.Audited
import GuardedSql.BuildError
import GuardedSql.Text.Split

/-!
# Whitelists

A whitelist holds the tables and the column expressions that may occur in the
text of a statement.  An entry is compared as it stands, with one exception: the
text before the first occurrence of ` AS ` is the expression of an aliased
entry, the rest is its alias.
-/

namespace GuardedSql

/-- Names in the order of their first mention, each of them once. -/
structure Identifiers where
  names : List String
  nodup : names.Nodup

namespace Identifiers

def empty : Identifiers :=
  ⟨[], List.nodup_nil⟩

instance : Inhabited Identifiers :=
  ⟨empty⟩

instance : Membership String Identifiers :=
  ⟨fun ids name => name ∈ ids.names⟩

instance (name : String) (ids : Identifiers) : Decidable (name ∈ ids) :=
  inferInstanceAs (Decidable (name ∈ ids.names))

instance : BEq Identifiers :=
  ⟨fun a b => a.names == b.names⟩

/-- Appends a name unless it is there already. -/
def insert (ids : Identifiers) (name : String) : Identifiers :=
  if h : name ∈ ids.names then ids
  else
    ⟨ids.names ++ [name],
      List.nodup_append.2 ⟨ids.nodup, by simp, fun a ha b hb =>
        fun e => h (List.mem_singleton.1 hb ▸ e ▸ ha)⟩⟩

/-- The names of a list in the order of their first mention. -/
def ofList (names : List String) : Identifiers :=
  names.foldl insert empty

@[simp]
theorem mem_insert {ids : Identifiers} {name other : String} :
    other ∈ ids.insert name ↔ other ∈ ids ∨ other = name := by
  show other ∈ (ids.insert name).names ↔ other ∈ ids.names ∨ other = name
  unfold insert
  split
  · rename_i h
    constructor
    · exact Or.inl
    · rintro (h' | rfl)
      · exact h'
      · exact h
  · simp

@[simp]
theorem not_mem_empty {name : String} : name ∉ empty :=
  List.not_mem_nil

theorem mem_foldl_insert {ids : Identifiers} {names : List String}
    {name : String} :
    name ∈ names.foldl insert ids ↔ name ∈ ids ∨ name ∈ names := by
  induction names generalizing ids with
  | nil => simp
  | cons first rest ih =>
    rw [List.foldl_cons, ih, mem_insert, List.mem_cons, or_assoc]

@[simp]
theorem mem_ofList {names : List String} {name : String} :
    name ∈ ofList names ↔ name ∈ names := by
  simp [ofList, mem_foldl_insert]

end Identifiers

/-- The tables and columns that may occur in statements. -/
structure Whitelist where
  tables : Identifiers
  columns : Identifiers
  deriving Inhabited, BEq

namespace Whitelist

def empty : Whitelist :=
  ⟨.empty, .empty⟩

def ofLists (tables columns : List String) : Whitelist :=
  ⟨.ofList tables, .ofList columns⟩

def allowTable (wl : Whitelist) (table : String) : Whitelist :=
  { wl with tables := wl.tables.insert table }

def allowColumn (wl : Whitelist) (column : String) : Whitelist :=
  { wl with columns := wl.columns.insert column }

/-! ## Aliases -/

/-- What separates an expression from its alias. -/
def aliasSeparator : List Char :=
  [' ', 'A', 'S', ' ']

/-- The expression of an item with an alias. -/
def aliased? (item : String) : Option String :=
  (Text.splitFirst aliasSeparator item.toList).map
    fun parts => String.ofList parts.1

/-- The expression of an item, which is the item itself when it has no alias. -/
def expression (item : String) : String :=
  (aliased? item).getD item

/-- Whether a text contains an opening parenthesis, as every call of an
aggregate does. -/
def hasParenthesis (item : String) : Bool :=
  item.toList.contains '('

/-! ## Membership -/

def hasTable (wl : Whitelist) (table : String) : Bool :=
  decide (table ∈ wl.tables)

def hasColumn (wl : Whitelist) (column : String) : Bool :=
  decide (column ∈ wl.columns)

/-- Whether a column may be selected: it is an entry, or an entry under an
alias. -/
def canSelect (wl : Whitelist) (column : String) : Bool :=
  wl.hasColumn column || (aliased? column).any wl.hasColumn

/-- Whether a column may be searched: it is the expression of an entry and has
no parenthesis. -/
def canSearch (wl : Whitelist) (column : String) : Bool :=
  !hasParenthesis column &&
    wl.columns.names.any fun entry => expression entry == column

/-- The columns that are searched unless others are named: the expressions of
the entries that have no parenthesis, in the order of their first mention. -/
def searchable (wl : Whitelist) : List String :=
  (Identifiers.ofList
    ((wl.columns.names.map expression).filter
      fun column => !hasParenthesis column)).names

theorem hasTable_iff {wl : Whitelist} {table : String} :
    wl.hasTable table = true ↔ table ∈ wl.tables := by
  simp [hasTable]

theorem hasColumn_iff {wl : Whitelist} {column : String} :
    wl.hasColumn column = true ↔ column ∈ wl.columns := by
  simp [hasColumn]

theorem canSearch_iff {wl : Whitelist} {column : String} :
    wl.canSearch column = true ↔
      hasParenthesis column = false ∧
        ∃ entry, entry ∈ wl.columns ∧ expression entry = column := by
  simp [canSearch, Membership.mem]

theorem mem_searchable {wl : Whitelist} {column : String} :
    column ∈ wl.searchable ↔ wl.canSearch column = true := by
  rw [canSearch_iff]
  show column ∈ Identifiers.ofList _ ↔ _
  rw [Identifiers.mem_ofList, List.mem_filter, List.mem_map, and_comm]
  simp [Membership.mem]

/-! ## Checks -/

/-- Refuses a table that is not an entry. -/
def checkTable (wl : Whitelist) (table : String) : Audited BuildError Unit :=
  if wl.hasTable table then pure ()
  else do
    Audited.report (.tableRejected table)
    Audited.fail (.tableNotAllowed table)

/-- Whether a column is allowed for a use. -/
def allows (wl : Whitelist) : ColumnUse → String → Bool
  | .plain => wl.hasColumn
  | .selected => wl.canSelect
  | .searched => wl.canSearch

/-- Refuses a column that is not allowed for a use. -/
def checkColumn (wl : Whitelist) (use : ColumnUse) (column : String) :
    Audited BuildError Unit :=
  if wl.allows use column then pure ()
  else do
    Audited.report (.columnRejected use column)
    Audited.fail (.columnNotAllowed column)

/-- Refuses the first column of a list that is not allowed for a use. -/
def checkColumns (wl : Whitelist) (use : ColumnUse) (columns : List String) :
    Audited BuildError Unit :=
  columns.forM (wl.checkColumn use)

end Whitelist

end GuardedSql
