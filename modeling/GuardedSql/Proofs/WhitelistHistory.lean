import GuardedSql.Proofs.SearchedColumns

/-!
# What a whitelist remembers

A whitelist has two sides, and each of them has every name that was ever allowed
on it, once, in the order in which the names were allowed first.  Only one
whitelist remembers a given history.  What is allowed on one side does not
change the other.
-/

namespace GuardedSql

theorem Identifiers.insert_of_mem {ids : Identifiers} {name : String}
    (h : name ∈ ids) : ids.insert name = ids :=
  dif_pos h

theorem Identifiers.eq_of_names_eq {ids ids' : Identifiers}
    (h : ids.names = ids'.names) : ids = ids' := by
  cases ids
  cases ids'
  cases h
  rfl

namespace Whitelist

/-! ## Sides -/

inductive Side where
  | tables
  | columns
  deriving DecidableEq

def side (wl : Whitelist) : Side → Identifiers
  | .tables => wl.tables
  | .columns => wl.columns

def allow (wl : Whitelist) : Side → String → Whitelist
  | .tables => wl.allowTable
  | .columns => wl.allowColumn

theorem eq_of_sides_eq {wl wl' : Whitelist}
    (h : ∀ side, wl.side side = wl'.side side) : wl = wl' := by
  have htables : wl.tables = wl'.tables := h .tables
  have hcolumns : wl.columns = wl'.columns := h .columns
  cases wl
  cases wl'
  cases htables
  cases hcolumns
  rfl

section

variable {wl : Whitelist} {side other : Side} {name : String}

theorem side_allow :
    (wl.allow side name).side other =
      if side = other then (wl.side other).insert name else wl.side other := by
  cases side with
  | tables => cases other <;> rfl
  | columns => cases other <;> rfl

theorem side_allow_of_ne (h : other ≠ side) :
    (wl.allow side name).side other = wl.side other := by
  rw [side_allow, if_neg h.symm]

theorem allow_of_mem (h : name ∈ wl.side side) : wl.allow side name = wl := by
  apply eq_of_sides_eq
  intro other
  by_cases hside : other = side
  · obtain rfl := hside
    rw [side_allow, if_pos rfl, Identifiers.insert_of_mem h]
  · exact side_allow_of_ne hside

theorem names_allow_of_not_mem (h : name ∉ wl.side side) :
    ((wl.allow side name).side side).names =
      (wl.side side).names ++ [name] := by
  rw [side_allow, if_pos rfl, Identifiers.names_insert, if_neg h]

end

/-! ## Histories -/

/-- The names that are allowed one after the other, with their sides. -/
abbrev History := List (Side × String)

namespace History

def nameOn? (side : Side) (entry : Side × String) : Option String :=
  if entry.1 = side then some entry.2 else none

/-- The names that are allowed on a side, as often as they are. -/
def namesOn (history : History) (side : Side) : List String :=
  history.filterMap (nameOn? side)

theorem nameOn?_eq_some_iff {side : Side} {entry : Side × String}
    {name : String} : nameOn? side entry = some name ↔ entry = (side, name) := by
  rw [nameOn?, Option.ite_none_right_eq_some, Option.some.injEq, Prod.ext_iff]

theorem mem_namesOn {history : History} {side : Side} {name : String} :
    name ∈ history.namesOn side ↔ (side, name) ∈ history := by
  simp only [namesOn, List.mem_filterMap, nameOn?_eq_some_iff,
    exists_eq_right]

theorem namesOn_append (history more : History) (side : Side) :
    namesOn (history ++ more) side = history.namesOn side ++ more.namesOn side :=
  List.filterMap_append

theorem namesOn_map (names : List String) (side other : Side) :
    namesOn (names.map (side, ·)) other =
      if side = other then names else [] := by
  rw [namesOn, List.filterMap_map]
  by_cases h : side = other
  · rw [if_pos h]
    exact (List.filterMap_congr fun _ _ => if_pos h).trans List.filterMap_some
  · rw [if_neg h]
    exact List.filterMap_eq_nil_iff.mpr fun _ _ => if_neg h

end History

/-- Each side of a whitelist has the names that a history allows on it, in the
order in which it allows them first and each of them once. -/
structure Remembers (wl : Whitelist) (history : History) : Prop where
  nodup : ∀ side, (wl.side side).names.Nodup
  ordered : ∀ side, (wl.side side).names.Pairwise
    (StartsBefore (fun entry name => entry = (side, name)) history)
  mem_iff : ∀ side name, name ∈ (wl.side side).names ↔ (side, name) ∈ history

/-- Nothing else about a whitelist is left open by what it remembers. -/
theorem Remembers.unique {wl wl' : Whitelist} {history : History}
    (h : wl.Remembers history) (h' : wl'.Remembers history) : wl = wl' := by
  apply eq_of_sides_eq
  intro side
  apply Identifiers.eq_of_names_eq
  have hperm : (wl.side side).names.Perm (wl'.side side).names := by
    rw [List.perm_ext_iff_of_nodup (h.nodup side) (h'.nodup side)]
    intro name
    rw [h.mem_iff, h'.mem_iff]
  refine hperm.eq_of_pairwise ?_ (h.ordered side) (h'.ordered side)
  intro a b _ _ hab hba
  exact absurd hba hab.asymm

/-! ## Constructions -/

/-- A way to build a whitelist: from nothing, from a list of tables and one of
columns, or by allowing a name in one that is built before. -/
inductive Construction where
  | empty
  | ofLists (tables columns : List String)
  | allow (before : Construction) (side : Side) (name : String)

namespace Construction

def build : Construction → Whitelist
  | empty => .empty
  | ofLists tables columns => .ofLists tables columns
  | allow before side name => before.build.allow side name

/-- All that is allowed, in the order in which it is given. -/
def history : Construction → History
  | empty => []
  | ofLists tables columns =>
    tables.map (Side.tables, ·) ++ columns.map (Side.columns, ·)
  | allow before side name => before.history ++ [(side, name)]

/-- What was allowed on a side makes it what it is, whatever was allowed on the
other side in the meantime. -/
theorem side_build (c : Construction) (side : Side) :
    c.build.side side = .ofList (c.history.namesOn side) := by
  induction c with
  | empty => cases side <;> rfl
  | ofLists tables columns =>
      rw [history, History.namesOn_append, History.namesOn_map,
        History.namesOn_map]
      cases side with
      | tables =>
          rw [if_pos rfl, if_neg (by decide), List.append_nil]
          rfl
      | columns =>
          rw [if_neg (by decide), if_pos rfl, List.nil_append]
          rfl
  | allow before given name ih =>
      have hlast := History.namesOn_map [name] given side
      rw [build, side_allow, ih, history, History.namesOn_append]
      rw [List.map_singleton] at hlast
      by_cases hside : given = side
      · rw [if_pos hside, hlast, if_pos hside,
          Identifiers.ofList_append_singleton]
      · rw [if_neg hside, hlast, if_neg hside, List.append_nil]

theorem remembers_build (c : Construction) : c.build.Remembers c.history where
  nodup side := (c.build.side side).nodup
  ordered side := by
    have hordered := Identifiers.pairwise_ofList_filterMap
      (History.nameOn? side) c.history
    simp only [History.nameOn?_eq_some_iff] at hordered
    rwa [side_build]
  mem_iff side name := by
    rw [side_build, ← History.mem_namesOn]
    exact Identifiers.mem_ofList

end Construction

end Whitelist

/-- However a whitelist is built, its tables and its columns are those that were
allowed, once each and in the order in which they were allowed first, and it is
the only whitelist of which this is true.  The tables depend on nothing but the
tables that were allowed, and the columns on nothing but the columns.  Allowing
a name leaves the other side as it is; a name that its side has already changes
nothing, and a new one stands after all others. -/
theorem whitelists_remember_history :
    (∀ c : Whitelist.Construction, c.build.Remembers c.history ∧
      ∀ wl : Whitelist, wl.Remembers c.history → wl = c.build) ∧
    (∀ (c c' : Whitelist.Construction) (side : Whitelist.Side),
      c.history.namesOn side = c'.history.namesOn side →
        c.build.side side = c'.build.side side) ∧
    ∀ (wl : Whitelist) (side : Whitelist.Side) (name : String),
      (∀ other, other ≠ side →
        (wl.allow side name).side other = wl.side other) ∧
      (name ∈ wl.side side → wl.allow side name = wl) ∧
      (name ∉ wl.side side → ((wl.allow side name).side side).names =
        (wl.side side).names ++ [name]) := by
  refine ⟨?_, ?_, ?_⟩
  · intro c
    exact ⟨c.remembers_build, fun wl h => h.unique c.remembers_build⟩
  · intro c c' side hnames
    rw [c.side_build, c'.side_build, hnames]
  · intro wl side name
    exact ⟨fun other => Whitelist.side_allow_of_ne, Whitelist.allow_of_mem,
      Whitelist.names_allow_of_not_mem⟩

/-- Names that are given again, to the same side and to the other one. -/
theorem whitelists_remember_history_repeated :
    let given : Whitelist.Construction :=
      .ofLists ["users", "orders", "users"] ["id", "users", "id"]
    let c : Whitelist.Construction :=
      .allow (.allow given .columns "orders") .tables "roles"
    let wl := Whitelist.ofLists ["users", "orders", "roles"]
      ["id", "users", "orders"]
    let other : Whitelist.Construction :=
      .ofLists [] ["id", "users", "id", "orders"]
    c.build.Remembers c.history ∧ wl.Remembers c.history ∧ wl = c.build ∧
      c.build.columns = other.build.columns ∧
      (wl.allowColumn "roles").tables = wl.tables ∧
      "users" ∈ wl.tables ∧ wl.allowTable "users" = wl ∧
      "roles" ∉ wl.columns ∧ (wl.allowColumn "roles").columns.names =
        ["id", "users", "orders", "roles"] := by
  intro given c wl other
  obtain ⟨hbuilt, hsides, hallowed⟩ := whitelists_remember_history
  obtain ⟨hbuild, hunique⟩ := hbuilt c
  have hremembers : wl.Remembers c.history := hbuild
  have hlisted : "users" ∈ wl.tables := by decide
  have hnew : "roles" ∉ wl.columns := by decide
  obtain ⟨hother, -, happended⟩ := hallowed wl .columns "roles"
  obtain ⟨-, hkept, -⟩ := hallowed wl .tables "users"
  exact ⟨hbuild, hremembers, hunique wl hremembers,
    hsides c other .columns rfl, hother .tables (by decide), hlisted,
    hkept hlisted, hnew, happended hnew⟩

end GuardedSql
