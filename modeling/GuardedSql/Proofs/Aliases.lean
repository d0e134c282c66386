import GuardedSql.Whitelist

/-!
# Expressions and aliases

An item of a whitelist or of a select list is cut at the first ` AS ` in it.
The cut is described here without the function that makes it: the expression
of an aliased item is what stands before a separator, and no separator starts
earlier.  From this follow descriptions of the columns that may be selected and
of those that may be searched.
-/

namespace GuardedSql

/-! ## The first separator -/

namespace Text

theorem splitFirst_length_le {sep s before after before' after' : List Char}
    (h : splitFirst sep s = some (before, after))
    (hs : s = before' ++ sep ++ after') : before.length ≤ before'.length := by
  induction s generalizing before before' with
  | nil =>
      have hbefore := eq_append_of_splitFirst h
      have hnil : before = [] := by
        rw [eq_comm, List.append_eq_nil_iff, List.append_eq_nil_iff] at hbefore
        exact hbefore.1.1
      rw [hnil]
      exact Nat.zero_le _
  | cons c rest ih =>
      rw [splitFirst] at h
      split at h
      · cases h
        exact Nat.zero_le _
      · rename_i hprefix
        obtain ⟨⟨b, a⟩, hba, heq⟩ := Option.map_eq_some_iff.mp h
        cases heq
        cases before' with
        | nil =>
            exfalso
            apply hprefix
            rw [List.isPrefixOf_iff_prefix, hs]
            exact List.prefix_append sep after'
        | cons c' before' =>
            have hrest : rest = before' ++ sep ++ after' :=
              (List.cons.inj hs).2
            exact Nat.succ_le_succ (ih hba hrest)

theorem splitFirst_ne_none {sep s before after : List Char}
    (hs : s = before ++ sep ++ after) : splitFirst sep s ≠ none := by
  induction s generalizing before with
  | nil =>
      rw [eq_comm, List.append_eq_nil_iff, List.append_eq_nil_iff] at hs
      rw [splitFirst, hs.1.2]
      exact Option.some_ne_none _
  | cons c rest ih =>
      rw [splitFirst]
      split
      · exact Option.some_ne_none _
      · rename_i hprefix
        cases before with
        | nil =>
            exfalso
            apply hprefix
            rw [List.isPrefixOf_iff_prefix, hs]
            exact List.prefix_append sep after
        | cons c' before =>
            have hrest : rest = before ++ sep ++ after := (List.cons.inj hs).2
            intro hnone
            exact ih hrest (Option.map_eq_none_iff.mp hnone)

theorem splitFirst_eq_none_iff {sep s : List Char} :
    splitFirst sep s = none ↔ ∀ before after, s ≠ before ++ sep ++ after := by
  constructor
  · intro h before after hs
    exact splitFirst_ne_none hs h
  · intro h
    cases hsplit : splitFirst sep s with
    | none => rfl
    | some parts =>
        exact absurd (eq_append_of_splitFirst hsplit) (h parts.1 parts.2)

end Text

/-! ## Expressions -/

/-- An item has an alias, and what stands before the first ` AS ` in it is the
given expression. -/
structure IsExpressionOf (expression item : String) : Prop where
  eq_append : ∃ name, item = expression ++ " AS " ++ name
  length_le : ∀ before after, item = before ++ " AS " ++ after →
    expression.length ≤ before.length

def IsUnaliased (item : String) : Prop :=
  ∀ before after, item ≠ before ++ " AS " ++ after

theorem IsExpressionOf.not_isUnaliased {expression item : String}
    (h : IsExpressionOf expression item) : ¬IsUnaliased item := by
  intro hunaliased
  obtain ⟨name, hitem⟩ := h.eq_append
  exact hunaliased _ _ hitem

namespace Whitelist

theorem eq_append_separator_iff {item before after : String} :
    item = before ++ " AS " ++ after ↔
      item.toList = before.toList ++ aliasSeparator ++ after.toList := by
  rw [← String.toList_inj, String.toList_append, String.toList_append]
  rfl

theorem aliased?_eq_none_iff {item : String} :
    aliased? item = none ↔ IsUnaliased item := by
  unfold aliased? IsUnaliased
  rw [Option.map_eq_none_iff, Text.splitFirst_eq_none_iff]
  constructor
  · intro h before after hitem
    exact h _ _ (eq_append_separator_iff.mp hitem)
  · intro h before after hitem
    apply h (String.ofList before) (String.ofList after)
    rw [eq_append_separator_iff, String.toList_ofList, String.toList_ofList]
    exact hitem

theorem isExpressionOf_of_aliased? {item expression : String}
    (h : aliased? item = some expression) : IsExpressionOf expression item := by
  obtain ⟨⟨before, after⟩, hsplit, rfl⟩ := Option.map_eq_some_iff.mp h
  constructor
  · refine ⟨String.ofList after, ?_⟩
    rw [eq_append_separator_iff, String.toList_ofList, String.toList_ofList]
    exact Text.eq_append_of_splitFirst hsplit
  · intro before' after' hitem
    have hlength := Text.splitFirst_length_le hsplit
      (eq_append_separator_iff.mp hitem)
    rw [← String.length_toList, ← String.length_toList, String.toList_ofList]
    exact hlength

/-- Of two prefixes of an item that both end at its first separator, neither is
longer than the other. -/
theorem eq_of_isExpressionOf {item expression expression' : String}
    (h : IsExpressionOf expression item)
    (h' : IsExpressionOf expression' item) : expression = expression' := by
  obtain ⟨name, hitem⟩ := h.eq_append
  obtain ⟨name', hitem'⟩ := h'.eq_append
  have hlength : expression.length = expression'.length :=
    Nat.le_antisymm (h.length_le _ _ hitem') (h'.length_le _ _ hitem)
  rw [← String.length_toList, ← String.length_toList] at hlength
  rw [eq_append_separator_iff, List.append_assoc] at hitem hitem'
  rw [hitem] at hitem'
  exact String.toList_inj.mp (List.append_inj_left hitem' hlength)

theorem aliased?_eq_some_iff {item expression : String} :
    aliased? item = some expression ↔ IsExpressionOf expression item := by
  constructor
  · exact isExpressionOf_of_aliased?
  · intro h
    cases haliased : aliased? item with
    | none =>
        exact absurd (aliased?_eq_none_iff.mp haliased) h.not_isUnaliased
    | some expression' =>
        rw [eq_of_isExpressionOf (isExpressionOf_of_aliased? haliased) h]

theorem expression_eq_iff {entry column : String} :
    expression entry = column ↔
      IsExpressionOf column entry ∨ (entry = column ∧ IsUnaliased entry) := by
  unfold expression
  cases haliased : aliased? entry with
  | none =>
      have hunaliased := aliased?_eq_none_iff.mp haliased
      constructor
      · intro hentry
        exact .inr ⟨hentry, hunaliased⟩
      · rintro (h | ⟨hentry, -⟩)
        · exact absurd hunaliased h.not_isUnaliased
        · exact hentry
  | some before =>
      have hbefore := aliased?_eq_some_iff.mp haliased
      constructor
      · rintro rfl
        exact .inl hbefore
      · rintro (h | ⟨-, hunaliased⟩)
        · exact eq_of_isExpressionOf hbefore h
        · exact absurd hunaliased hbefore.not_isUnaliased

/-! ## Columns that may be selected or searched -/

/-- A column is an entry, or what stands before its first ` AS ` is one. -/
def Selectable (wl : Whitelist) (column : String) : Prop :=
  column ∈ wl.columns ∨
    ∃ expression, IsExpressionOf expression column ∧ expression ∈ wl.columns

/-- A column has no opening parenthesis, and it is what stands before the
first ` AS ` of some entry, or an entry without alias. -/
def Searchable (wl : Whitelist) (column : String) : Prop :=
  '(' ∉ column.toList ∧ ∃ entry, entry ∈ wl.columns ∧
    (IsExpressionOf column entry ∨ (entry = column ∧ IsUnaliased entry))

theorem canSelect_iff_selectable {wl : Whitelist} {column : String} :
    wl.canSelect column = true ↔ wl.Selectable column := by
  unfold canSelect Selectable
  rw [Bool.or_eq_true, hasColumn_iff, Option.any_eq_true]
  simp only [aliased?_eq_some_iff, hasColumn_iff]

theorem hasParenthesis_eq_false_iff {item : String} :
    hasParenthesis item = false ↔ '(' ∉ item.toList := by
  rw [hasParenthesis, ← Bool.not_eq_true, List.contains_iff_mem]

theorem canSearch_iff_searchable {wl : Whitelist} {column : String} :
    wl.canSearch column = true ↔ wl.Searchable column := by
  rw [canSearch_iff, hasParenthesis_eq_false_iff]
  unfold Searchable
  simp only [expression_eq_iff]

end Whitelist

end GuardedSql
