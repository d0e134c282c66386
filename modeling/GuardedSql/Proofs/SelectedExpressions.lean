import GuardedSql.Proofs.SearchedColumns

/-!
# The expressions of aliased entries in a select list

An aliased entry may be selected as it stands, and one would expect that the
expression before its alias may be selected too.  But the alias is cut from the
requested column and not from the entry.  So the expression alone is selected
only if the whitelist has it as an entry of its own.
-/

namespace GuardedSql

namespace Whitelist

variable {wl : Whitelist} {column entry : String}

/-- A column without an alias is selected only as an entry. -/
theorem selectable_iff_of_isUnaliased (h : IsUnaliased column) :
    wl.Selectable column ↔ column ∈ wl.columns := by
  constructor
  · rintro (hentry | ⟨expression, hexpression, -⟩)
    · exact hentry
    · exact absurd h hexpression.not_isUnaliased
  · exact .inl

theorem canSearch_iff_of_isExpressionOf (hentry : entry ∈ wl.columns)
    (h : IsExpressionOf column entry) :
    wl.canSearch column = true ↔ '(' ∉ column.toList := by
  rw [canSearch_iff_searchable]
  constructor
  · exact And.left
  · intro hparenthesis
    exact ⟨hparenthesis, entry, hentry, .inl h⟩

end Whitelist

/-! ## One column among others -/

section

variable {wl : Whitelist} {front rest : List String} {column : String}

theorem decidedBy_columnList_member (wl : Whitelist)
    (front rest : List String) (column : String) :
    DecidedBy (columnList wl (front ++ column :: rest)).outcome
      (front.map wl.selectCheck ++
        ([wl.selectCheck column] ++ rest.map wl.selectCheck)) := by
  have hlist := decidedBy_columnList wl (front ++ column :: rest)
  rwa [List.map_append, List.map_cons] at hlist

theorem decidedBy_columnList_others (wl : Whitelist)
    (front rest : List String) :
    DecidedBy (columnList wl (front ++ rest)).outcome
      (front.map wl.selectCheck ++ rest.map wl.selectCheck) := by
  have hlist := decidedBy_columnList wl (front ++ rest)
  rwa [List.map_append] at hlist

theorem columnList_member_isOk_iff :
    (∃ sql, (columnList wl (front ++ column :: rest)).outcome = .ok sql) ↔
      (∃ sql, (columnList wl (front ++ rest)).outcome = .ok sql) ∧
        wl.Selectable column := by
  have hmember := decidedBy_columnList_member wl front rest column
  have hothers := decidedBy_columnList_others wl front rest
  rw [hmember.isOk_between_iff hothers, List.forall_mem_singleton]
  rfl

/-- A list that is not empty is written as it is requested. -/
theorem columnList_member_eq_ok_iff :
    (columnList wl (front ++ column :: rest)).outcome =
        .ok (", ".intercalate (front ++ column :: rest)) ↔
      (∃ sql, (columnList wl (front ++ rest)).outcome = .ok sql) ∧
        wl.Selectable column := by
  rw [← columnList_member_isOk_iff]
  constructor
  · intro h
    exact ⟨_, h⟩
  · rintro ⟨sql, hsql⟩
    have hsome : ¬(front ++ column :: rest).isEmpty = true := by simp
    have htext := columnList_eq_ok hsql
    rw [if_neg hsome] at htext
    rw [hsql, htext]

theorem columnList_member_eq_error
    (hothers : ∃ sql, (columnList wl (front ++ rest)).outcome = .ok sql)
    (hcolumn : ¬wl.Selectable column) :
    (columnList wl (front ++ column :: rest)).outcome =
      .error (.columnNotAllowed column) := by
  have hmember := decidedBy_columnList_member wl front rest column
  rw [hmember.eq_error_between_iff
    (decidedBy_columnList_others wl front rest) hothers]
  exact .inl ⟨hcolumn, rfl⟩

end

/-- An aliased entry is accepted at every place of a select list whose other
columns are accepted.  Its expression alone is accepted exactly when it is an
entry itself, and otherwise it is refused by name, although it may be searched
unless it has a parenthesis. -/
theorem aliased_entries_selected_whole {wl : Whitelist}
    {entry expression : String} (hentry : entry ∈ wl.columns)
    (hexpression : IsExpressionOf expression entry)
    (front rest : List String) :
    ((columnList wl (front ++ entry :: rest)).outcome =
        .ok (", ".intercalate (front ++ entry :: rest)) ↔
      ∃ sql, (columnList wl (front ++ rest)).outcome = .ok sql) ∧
    ((columnList wl (front ++ expression :: rest)).outcome =
        .ok (", ".intercalate (front ++ expression :: rest)) ↔
      (∃ sql, (columnList wl (front ++ rest)).outcome = .ok sql) ∧
        expression ∈ wl.columns) ∧
    ((∃ sql, (columnList wl (front ++ rest)).outcome = .ok sql) →
      expression ∉ wl.columns →
      (columnList wl (front ++ expression :: rest)).outcome =
        .error (.columnNotAllowed expression)) ∧
    (wl.canSearch expression = true ↔ '(' ∉ expression.toList) := by
  have hselectable : wl.Selectable expression ↔ expression ∈ wl.columns :=
    Whitelist.selectable_iff_of_isUnaliased hexpression.isUnaliased
  refine ⟨?_, ?_, ?_,
    Whitelist.canSearch_iff_of_isExpressionOf hentry hexpression⟩
  · rw [columnList_member_eq_ok_iff]
    exact and_iff_left (.inl hentry)
  · rw [columnList_member_eq_ok_iff, hselectable]
  · intro hothers hnot
    exact columnList_member_eq_error hothers fun h => hnot (hselectable.mp h)

/-- Of two aliased entries with different expressions, one expression is an
entry of its own. -/
theorem aliased_entries_selected_whole_mixed :
    let wl := Whitelist.ofLists []
      ["id", "users.name AS name", "note AS short AS text", "note"]
    let front := ["id AS number"]
    let rest := ["id"]
    IsExpressionOf "users.name" "users.name AS name" ∧
      IsExpressionOf "note" "note AS short AS text" ∧
      (columnList wl (front ++ "users.name AS name" :: rest)).outcome =
        .ok "id AS number, users.name AS name, id" ∧
      (columnList wl (front ++ "users.name" :: rest)).outcome =
        .error (.columnNotAllowed "users.name") ∧
      wl.canSearch "users.name" = true ∧
      (columnList wl (front ++ "note" :: rest)).outcome =
        .ok "id AS number, note, id" := by
  intro wl front rest
  have hname : IsExpressionOf "users.name" "users.name AS name" :=
    Whitelist.isExpressionOf_of_aliased? (by decide)
  have hnote : IsExpressionOf "note" "note AS short AS text" :=
    Whitelist.isExpressionOf_of_aliased? (by decide)
  have hothers : (columnList wl (front ++ rest)).outcome =
      .ok "id AS number, id" := rfl
  have hnameListed : "users.name AS name" ∈ wl.columns := by decide
  have hnoteListed : "note AS short AS text" ∈ wl.columns := by decide
  obtain ⟨hwhole, -, hrefused, hsearched⟩ :=
    aliased_entries_selected_whole hnameListed hname front rest
  obtain ⟨-, hentry, -⟩ :=
    aliased_entries_selected_whole hnoteListed hnote front rest
  exact ⟨hname, hnote, hwhole.mpr ⟨_, hothers⟩,
    hrefused ⟨_, hothers⟩ (by decide), hsearched.mpr (by decide),
    hentry.mpr ⟨⟨_, hothers⟩, by decide⟩⟩

/-- The expression of an aliased entry is not always accepted in a select
list. -/
theorem not_expressions_selected :
    ¬∀ (wl : Whitelist) (entry expression : String), entry ∈ wl.columns →
      IsExpressionOf expression entry → ∀ front rest,
        (∃ sql, (columnList wl (front ++ rest)).outcome = .ok sql) →
        (∃ sql, (columnList wl (front ++ entry :: rest)).outcome = .ok sql) ∧
          ∃ sql, (columnList wl
            (front ++ expression :: rest)).outcome = .ok sql := by
  intro h
  let wl := Whitelist.ofLists [] ["users.name AS name"]
  have hexpression : IsExpressionOf "users.name" "users.name AS name" :=
    Whitelist.isExpressionOf_of_aliased? (by decide)
  obtain ⟨-, sql, hsql⟩ :=
    h wl _ _ (by decide) hexpression [] [] ⟨"*", rfl⟩
  have hrefused : (columnList wl ["users.name"]).outcome =
      .error (.columnNotAllowed "users.name") := rfl
  rw [List.nil_append, hrefused] at hsql
  cases hsql

end GuardedSql
