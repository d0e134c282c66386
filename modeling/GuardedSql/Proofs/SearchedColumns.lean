import GuardedSql.Proofs.Acceptance
import Mathlib.Data.List.Induction

/-!
# The columns of a search

The columns that a whitelist searches and those that it takes in a group of
alternatives are found in different ways and are the same: the expressions of
the entries, without those that contain a parenthesis.  An expression ends where
the first alias of its entry begins, so it has no alias itself.
-/

namespace GuardedSql

/-! ## First items -/

/-- The item at a position is the first of a list with some property. -/
def IsFirst {α : Type} (p : α → Prop) (items : List α) (i : ℕ) : Prop :=
  (∃ item, items[i]? = some item ∧ p item) ∧
    ∀ j < i, ∀ item, items[j]? = some item → ¬p item

/-- The first item that is related to one name stands before the first that is
related to another one. -/
def StartsBefore {α β : Type} (R : α → β → Prop) (items : List α)
    (a b : β) : Prop :=
  ∃ i j, i < j ∧ IsFirst (R · a) items i ∧ IsFirst (R · b) items j

section

variable {α : Type} {p : α → Prop} {items : List α} {i : ℕ}

theorem IsFirst.lt_length (h : IsFirst p items i) : i < items.length := by
  obtain ⟨⟨item, hitem, -⟩, -⟩ := h
  exact (List.getElem?_eq_some_iff.mp hitem).1

theorem IsFirst.append (h : IsFirst p items i) (more : List α) :
    IsFirst p (items ++ more) i := by
  have hi := h.lt_length
  obtain ⟨⟨item, hitem, hp⟩, hbefore⟩ := h
  refine ⟨⟨item, ?_, hp⟩, ?_⟩
  · rw [List.getElem?_append_left hi, hitem]
  · intro j hj other hother
    rw [List.getElem?_append_left (Nat.lt_trans hj hi)] at hother
    exact hbefore j hj other hother

theorem IsFirst.unique {j : ℕ} (hi : IsFirst p items i)
    (hj : IsFirst p items j) : i = j := by
  obtain ⟨⟨item, hitem, hp⟩, hbeforei⟩ := hi
  obtain ⟨⟨other, hother, hp'⟩, hbeforej⟩ := hj
  rcases Nat.lt_trichotomy i j with hlt | heq | hlt
  · exact absurd hp (hbeforej i hlt item hitem)
  · exact heq
  · exact absurd hp' (hbeforei j hlt other hother)

theorem StartsBefore.asymm {β : Type} {R : α → β → Prop} {a b : β}
    (hab : StartsBefore R items a b) : ¬StartsBefore R items b a := by
  rintro ⟨i', j', hij', hb', ha'⟩
  obtain ⟨i, j, hij, ha, hb⟩ := hab
  have hi := ha.unique ha'
  have hj := hb.unique hb'
  omega

theorem StartsBefore.append {β : Type} {R : α → β → Prop} {a b : β}
    (h : StartsBefore R items a b) (more : List α) :
    StartsBefore R (items ++ more) a b := by
  obtain ⟨i, j, hij, ha, hb⟩ := h
  exact ⟨i, j, hij, ha.append more, hb.append more⟩

theorem isFirst_length (hnone : ∀ item ∈ items, ¬p item) {item : α}
    (hp : p item) : IsFirst p (items ++ [item]) items.length := by
  refine ⟨⟨item, List.getElem?_concat_length, hp⟩, ?_⟩
  intro j hj other hother
  rw [List.getElem?_append_left hj] at hother
  exact hnone other (List.mem_of_getElem? hother)

theorem exists_isFirst_iff :
    (∃ i, IsFirst p items i) ↔ ∃ item ∈ items, p item := by
  constructor
  · rintro ⟨i, ⟨item, hitem, hp⟩, -⟩
    exact ⟨item, List.mem_of_getElem? hitem, hp⟩
  · intro h
    induction items using List.reverseRecOn with
    | nil =>
        obtain ⟨item, hitem, -⟩ := h
        exact absurd hitem List.not_mem_nil
    | append_singleton items last ih =>
        by_cases hearlier : ∃ item ∈ items, p item
        · obtain ⟨i, hi⟩ := ih hearlier
          exact ⟨i, hi.append [last]⟩
        · push Not at hearlier
          obtain ⟨item, hitem, hp⟩ := h
          rcases List.mem_append.mp hitem with hitem | hitem
          · exact absurd hp (hearlier item hitem)
          · obtain rfl := List.mem_singleton.mp hitem
            exact ⟨items.length, isFirst_length hearlier hp⟩

/-- A name that is related to the last item and to none before it starts after
all others. -/
theorem pairwise_startsBefore_concat {β : Type} {R : α → β → Prop}
    {names : List β} {name : β} {last : α}
    (h : names.Pairwise (StartsBefore R items))
    (hsource : ∀ a ∈ names, ∃ item ∈ items, R item a)
    (hnone : ∀ item ∈ items, ¬R item name) (hlast : R last name) :
    (names ++ [name]).Pairwise (StartsBefore R (items ++ [last])) := by
  have hkept := h.imp fun hab => hab.append [last]
  rw [List.pairwise_append]
  refine ⟨hkept, List.pairwise_singleton _ _, ?_⟩
  intro a ha b hb
  obtain rfl := List.mem_singleton.mp hb
  obtain ⟨i, hi⟩ := exists_isFirst_iff.mpr (hsource a ha)
  exact ⟨i, items.length, hi.lt_length, hi.append [last],
    isFirst_length hnone hlast⟩

end

namespace Identifiers

theorem names_insert (ids : Identifiers) (name : String) :
    (ids.insert name).names =
      if name ∈ ids then ids.names else ids.names ++ [name] := by
  rw [insert]
  split
  · rename_i hmem
    exact (if_pos hmem).symm
  · rename_i hmem
    exact (if_neg hmem).symm

theorem ofList_append_singleton (names : List String) (name : String) :
    ofList (names ++ [name]) = (ofList names).insert name := by
  rw [ofList, List.foldl_append]
  rfl

/-- Names that are read off the items of a list are kept in the order of the
first items that they are read off. -/
theorem pairwise_ofList_filterMap {α : Type} (name? : α → Option String)
    (items : List α) :
    (ofList (items.filterMap name?)).names.Pairwise
      (StartsBefore (fun item name => name? item = some name) items) := by
  induction items using List.reverseRecOn with
  | nil => exact List.Pairwise.nil
  | append_singleton items item ih =>
      have hkept := ih.imp fun hab => hab.append [item]
      rcases hname : name? item with _ | name
      · rwa [List.filterMap_append, List.filterMap_cons_none hname,
          List.filterMap_nil, List.append_nil]
      · rw [List.filterMap_append, List.filterMap_cons_some hname,
          List.filterMap_nil, ofList_append_singleton, names_insert]
        by_cases hmem : name ∈ ofList (items.filterMap name?)
        · rwa [if_pos hmem]
        · rw [if_neg hmem]
          refine pairwise_startsBefore_concat ih ?_ ?_ hname
          · intro a ha
            exact List.mem_filterMap.mp (mem_ofList.mp ha)
          · intro other hother hb
            exact hmem <| mem_ofList.mpr <|
              List.mem_filterMap.mpr ⟨other, hother, hb⟩

end Identifiers

/-! ## Expressions without parentheses -/

/-- An entry gives a column to the search: its expression, if this contains no
parenthesis. -/
def Contributes (entry column : String) : Prop :=
  '(' ∉ column.toList ∧
    (IsExpressionOf column entry ∨ (entry = column ∧ IsUnaliased entry))

/-- A separator in an expression would be an earlier one of its entry. -/
theorem IsExpressionOf.isUnaliased {column entry : String}
    (h : IsExpressionOf column entry) : IsUnaliased column := by
  intro before after hcolumn
  obtain ⟨name, hentry⟩ := h.eq_append
  have hearlier : entry = before ++ " AS " ++ (after ++ " AS " ++ name) := by
    rw [hentry, hcolumn]
    simp only [String.append_assoc]
  have hle := h.length_le before _ hearlier
  have hlength : column.length = before.length + 4 + after.length := by
    rw [hcolumn, String.length_append, String.length_append]
    rfl
  omega

theorem Contributes.isUnaliased {entry column : String}
    (h : Contributes entry column) : IsUnaliased column := by
  obtain ⟨-, hexpression | ⟨rfl, hunaliased⟩⟩ := h
  · exact hexpression.isUnaliased
  · exact hunaliased

namespace Whitelist

variable {wl : Whitelist} {column : String}

theorem searchable_iff_contributes :
    wl.Searchable column ↔ ∃ entry ∈ wl.columns.names,
      Contributes entry column := by
  constructor
  · rintro ⟨hparenthesis, entry, hentry, hexpression⟩
    exact ⟨entry, hentry, hparenthesis, hexpression⟩
  · rintro ⟨entry, hentry, hparenthesis, hexpression⟩
    exact ⟨hparenthesis, entry, hentry, hexpression⟩

theorem Searchable.isUnaliased (h : wl.Searchable column) :
    IsUnaliased column := by
  obtain ⟨entry, -, hentry⟩ := searchable_iff_contributes.mp h
  exact hentry.isUnaliased

def contribution? (entry : String) : Option String :=
  Option.guard (fun column => !hasParenthesis column) (expression entry)

theorem contribution?_eq_some_iff {entry : String} :
    contribution? entry = some column ↔ Contributes entry column := by
  rw [contribution?, Option.guard_eq_some_iff, Bool.not_eq_true',
    Contributes, ← expression_eq_iff, and_comm]
  constructor
  · rintro ⟨hparenthesis, rfl⟩
    exact ⟨hasParenthesis_eq_false_iff.mp hparenthesis, rfl⟩
  · rintro ⟨hparenthesis, rfl⟩
    exact ⟨hasParenthesis_eq_false_iff.mpr hparenthesis, rfl⟩

theorem searchable_eq_ofList (wl : Whitelist) :
    wl.searchable =
      (Identifiers.ofList (wl.columns.names.filterMap contribution?)).names := by
  rw [searchable, ← List.filterMap_eq_filter, List.filterMap_map]
  rfl

theorem pairwise_searchable (wl : Whitelist) :
    wl.searchable.Pairwise (StartsBefore Contributes wl.columns.names) := by
  have hordered := Identifiers.pairwise_ofList_filterMap contribution?
    wl.columns.names
  simp only [contribution?_eq_some_iff] at hordered
  rwa [searchable_eq_ofList]

end Whitelist

/-! ## Groups of alternatives -/

/-- The columns that are written in a group are those of its members, which are
all checked. -/
theorem Predicate.searchable_of_anyOf {wl : Whitelist} {fs : Filters}
    {p : Predicate} (h : (ofFilters wl fs).outcome = .ok p)
    {alternatives : List Condition} (hterm : .anyOf alternatives ∈ p)
    {c : Condition} (hc : c ∈ alternatives) : wl.Searchable c.column := by
  obtain ⟨criterion, hcriterion, hyields, f, hf, -, hcondition⟩ :=
    exists_member_of_condition h hterm hc
  have hacceptable : criterion.Acceptable wl := by
    have hdemands := (decidedBy_ofFilters wl fs).isOk_iff.mp ⟨p, h⟩
    exact Filters.forall_acceptable_iff.mpr hdemands criterion hcriterion
  rcases hyields with _ | @⟨group, _, _⟩
  rw [hcondition.column_eq]
  exact (hacceptable f hf).1

/-- The columns that are offered to a search are listed once each, in the order
of the first entries that contribute them, and they are those that the check
for groups accepts.  Each of them is an expression without alias and without
parenthesis, and so is every column that is written in a group of
alternatives. -/
theorem searchable_agrees_with_check (wl : Whitelist) :
    wl.searchable.Nodup ∧
    wl.searchable.Pairwise (StartsBefore Contributes wl.columns.names) ∧
    (∀ column,
      (column ∈ wl.searchable ↔
        ∃ i, IsFirst (Contributes · column) wl.columns.names i) ∧
      (column ∈ wl.searchable ↔ wl.canSearch column = true) ∧
      (column ∈ wl.searchable ↔
        (wl.checkColumn .searched column).outcome = .ok ()) ∧
      (column ∈ wl.searchable →
        '(' ∉ column.toList ∧ IsUnaliased column)) ∧
    ∀ fs s, (whereClause wl fs).outcome = .ok s →
      ∃ p, (Predicate.ofFilters wl fs).outcome = .ok p ∧
        p.clause "WHERE" = s ∧
        ∀ alternatives, .anyOf alternatives ∈ p → ∀ c ∈ alternatives,
          c.column ∈ wl.searchable ∧ '(' ∉ c.column.toList ∧
            IsUnaliased c.column := by
  have hsearchable : ∀ column, column ∈ wl.searchable ↔ wl.Searchable column :=
    fun _ => Whitelist.mem_searchable.trans Whitelist.canSearch_iff_searchable
  refine ⟨Identifiers.nodup _, wl.pairwise_searchable, ?_, ?_⟩
  · intro column
    refine ⟨?_, Whitelist.mem_searchable, ?_, ?_⟩
    · rw [hsearchable, exists_isFirst_iff]
      exact Whitelist.searchable_iff_contributes
    · rw [Whitelist.mem_searchable, Whitelist.checkColumn_eq_ok_iff]
      rfl
    · intro hcolumn
      have hcheck := (hsearchable column).mp hcolumn
      exact ⟨hcheck.1, hcheck.isUnaliased⟩
  · intro fs s hs
    obtain ⟨p, hp, hclause⟩ := whereClause_eq_ok hs
    refine ⟨p, hp, hclause, ?_⟩
    intro alternatives hterm c hc
    have hcheck := Predicate.searchable_of_anyOf hp hterm hc
    exact ⟨(hsearchable _).mpr hcheck, hcheck.1, hcheck.isUnaliased⟩

/-- Entries with several separators, with nothing before a separator and with
parentheses only in the alias, and an expression that stands in two entries. -/
theorem searchable_agrees_with_check_mixed :
    let wl := Whitelist.ofLists []
      ["orders.id", "users.name AS name", "COUNT(orders.id)",
        "SUM(amount) AS total", "users.name", "note AS short AS (n)",
        " AS nothing"]
    let group : List Filter :=
      [⟨"note", .like, .single (.text "a")⟩, ⟨"users.name", .like, .absent⟩,
        ⟨"users.name", .equal, .single (.text "ann")⟩]
    wl.searchable = ["orders.id", "users.name", "note", ""] ∧
      StartsBefore Contributes wl.columns.names "users.name" "note" ∧
      "note" ∈ wl.searchable ∧ '(' ∉ "note".toList ∧ IsUnaliased "note" ∧
      (wl.checkColumn .searched "users.name AS name").outcome ≠ .ok () ∧
      (whereClause wl ⟨[.anyOf group]⟩).outcome =
        .ok ⟨"WHERE 1=1 AND (note LIKE ? OR users.name = ?)",
          [.text "%a%", .text "ann"]⟩ ∧
      ∃ p, (Predicate.ofFilters wl ⟨[.anyOf group]⟩).outcome = .ok p ∧
        ∀ alternatives, .anyOf alternatives ∈ p → ∀ c ∈ alternatives,
          '(' ∉ c.column.toList ∧ IsUnaliased c.column := by
  intro wl group
  have hlist : wl.searchable = ["orders.id", "users.name", "note", ""] := by
    decide
  have hnote : "note" ∈ wl.searchable := by
    rw [hlist]
    decide
  have haliased : "users.name AS name" ∉ wl.searchable := by
    rw [hlist]
    decide
  have hclause : (whereClause wl ⟨[.anyOf group]⟩).outcome =
      .ok ⟨"WHERE 1=1 AND (note LIKE ? OR users.name = ?)",
        [.text "%a%", .text "ann"]⟩ := rfl
  obtain ⟨-, hordered, hcolumns, hwritten⟩ := searchable_agrees_with_check wl
  obtain ⟨p, hp, -, hgroups⟩ := hwritten _ _ hclause
  obtain ⟨-, -, -, hplain⟩ := hcolumns "note"
  obtain ⟨-, -, hchecked, -⟩ := hcolumns "users.name AS name"
  obtain ⟨hparenthesis, hunaliased⟩ := hplain hnote
  refine ⟨hlist, ?_, hnote, hparenthesis, hunaliased,
    fun h => haliased (hchecked.mpr h), hclause, p, hp, ?_⟩
  · rw [hlist] at hordered
    exact List.pairwise_iff_getElem.mp hordered 1 2 (by decide) (by decide)
      (by decide)
  · intro alternatives hterm c hc
    exact (hgroups alternatives hterm c hc).2

end GuardedSql
