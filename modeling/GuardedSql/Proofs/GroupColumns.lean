import GuardedSql.Proofs.SearchedColumns

/-!
# The columns of a group of alternatives

One would expect a group of alternatives to take every entry of the whitelist
and every expression of an aliased entry, except for those with a parenthesis.
This is the rule for the columns that have no alias themselves.  An entry that
has one is not taken as it stands, although a single condition may be written on
it.
-/

namespace GuardedSql

/-! ## The expected rule -/

namespace Whitelist

variable {wl : Whitelist} {column : String}

/-- A column has no opening parenthesis, and it is an entry or what stands
before the first ` AS ` of one. -/
def EntryOrExpression (wl : Whitelist) (column : String) : Prop :=
  '(' ∉ column.toList ∧ (column ∈ wl.columns ∨
    ∃ entry, entry ∈ wl.columns ∧ IsExpressionOf column entry)

theorem searchable_iff_entryOrExpression :
    wl.Searchable column ↔ wl.EntryOrExpression column ∧ IsUnaliased column := by
  constructor
  · intro h
    refine ⟨⟨h.1, ?_⟩, h.isUnaliased⟩
    obtain ⟨-, entry, hentry, hexpression | ⟨rfl, -⟩⟩ := h
    · exact .inr ⟨entry, hentry, hexpression⟩
    · exact .inl hentry
  · rintro ⟨⟨hparenthesis, hentry | ⟨entry, hentry, hexpression⟩⟩, hunaliased⟩
    · exact ⟨hparenthesis, column, hentry, .inr ⟨rfl, hunaliased⟩⟩
    · exact ⟨hparenthesis, entry, hentry, .inl hexpression⟩

/-- Only an entry can have an alias, since an expression ends before the first
one of its entry. -/
theorem EntryOrExpression.mem_of_not_isUnaliased
    (h : wl.EntryOrExpression column) (haliased : ¬IsUnaliased column) :
    column ∈ wl.columns := by
  obtain ⟨-, hentry | ⟨entry, -, hexpression⟩⟩ := h
  · exact hentry
  · exact absurd hexpression.isUnaliased haliased

theorem canSearch_iff_entryOrExpression :
    wl.canSearch column = true ↔
      wl.EntryOrExpression column ∧ IsUnaliased column :=
  canSearch_iff_searchable.trans searchable_iff_entryOrExpression

theorem entryOrExpression_and_not_canSearch_iff :
    wl.EntryOrExpression column ∧ wl.canSearch column = false ↔
      column ∈ wl.columns ∧ '(' ∉ column.toList ∧ ¬IsUnaliased column := by
  rw [← Bool.not_eq_true, canSearch_iff_entryOrExpression]
  constructor
  · rintro ⟨hrule, hnot⟩
    have haliased : ¬IsUnaliased column := fun h => hnot ⟨hrule, h⟩
    exact ⟨hrule.mem_of_not_isUnaliased haliased, hrule.1, haliased⟩
  · rintro ⟨hentry, hparenthesis, haliased⟩
    exact ⟨⟨hparenthesis, .inl hentry⟩, fun h => haliased h.2⟩

end Whitelist

/-! ## Members of a group -/

/-- Criteria with a group of alternatives among them. -/
def Filters.withGroup (before : List Criterion) (group : List Filter)
    (after : List Criterion) : Filters :=
  ⟨before ++ .anyOf group :: after⟩

section

variable {wl : Whitelist} {before after : List Criterion}
  {front rest : List Filter} {f : Filter}

theorem Filters.checks_withGroup (wl : Whitelist)
    (before after : List Criterion) (front rest : List Filter) :
    (withGroup before (front ++ rest) after).checks wl =
      (withGroup before front []).checks wl ++
        (withGroup [] rest after).checks wl := by
  simp [withGroup, checks, Criterion.checks]

theorem Filters.checks_withGroup_cons (wl : Whitelist)
    (after : List Criterion) (f : Filter) (rest : List Filter) :
    (withGroup [] (f :: rest) after).checks wl =
      [wl.searchCheck f.column, f.valueCheck] ++
        (withGroup [] rest after).checks wl := by
  simp [withGroup, checks, Criterion.checks]

/-- What is demanded of a member stands between the demands on the rest. -/
theorem decidedBy_whereClause_member (wl : Whitelist)
    (before after : List Criterion) (front rest : List Filter) (f : Filter) :
    DecidedBy
      (whereClause wl (.withGroup before (front ++ f :: rest) after)).outcome
      ((Filters.withGroup before front []).checks wl ++
        ([wl.searchCheck f.column, f.valueCheck] ++
          (Filters.withGroup [] rest after).checks wl)) := by
  rw [← Filters.checks_withGroup_cons, ← Filters.checks_withGroup]
  exact decidedBy_whereClause wl _

theorem decidedBy_whereClause_others (wl : Whitelist)
    (before after : List Criterion) (front rest : List Filter) :
    DecidedBy
      (whereClause wl (.withGroup before (front ++ rest) after)).outcome
      ((Filters.withGroup before front []).checks wl ++
        (Filters.withGroup [] rest after).checks wl) := by
  rw [← Filters.checks_withGroup]
  exact decidedBy_whereClause wl _

theorem whereClause_member_isOk_iff :
    (∃ s, (whereClause wl
        (.withGroup before (front ++ f :: rest) after)).outcome = .ok s) ↔
      (∃ s, (whereClause wl
        (.withGroup before (front ++ rest) after)).outcome = .ok s) ∧
        wl.Searchable f.column ∧ f.Fits := by
  have hmember := decidedBy_whereClause_member wl before after front rest f
  have hothers := decidedBy_whereClause_others wl before after front rest
  rw [hmember.isOk_between_iff hothers, List.forall_mem_cons,
    List.forall_mem_singleton]
  rfl

theorem whereClause_member_eq_error
    (hothers : ∃ s, (whereClause wl
      (.withGroup before (front ++ rest) after)).outcome = .ok s)
    (hcolumn : ¬wl.Searchable f.column) :
    (whereClause wl (.withGroup before (front ++ f :: rest) after)).outcome =
      .error (.columnNotAllowed f.column) := by
  have hmember := decidedBy_whereClause_member wl before after front rest f
  rw [hmember.eq_error_between_iff
    (decidedBy_whereClause_others wl before after front rest) hothers]
  exact .inl ⟨hcolumn, rfl⟩

end

/-- A group of alternatives takes a column that has no alias when it is an entry
or the expression of one and has no parenthesis.  The entries with an alias and
without a parenthesis are the only columns that are refused against this rule.
A member whose value fits is accepted by its column alone, wherever it stands;
when nothing else is at fault, the error names the column. -/
theorem groups_take_unaliased_columns (wl : Whitelist) (column : String) :
    (wl.canSearch column = true ↔
      wl.EntryOrExpression column ∧ IsUnaliased column) ∧
    (wl.EntryOrExpression column ∧ wl.canSearch column = false ↔
      column ∈ wl.columns ∧ '(' ∉ column.toList ∧ ¬IsUnaliased column) ∧
    ∀ before front rest after operator operand,
      let f : Filter := ⟨column, operator, operand⟩
      let others := Filters.withGroup before (front ++ rest) after
      let all := Filters.withGroup before (front ++ f :: rest) after
      ((∃ s, (whereClause wl all).outcome = .ok s) ↔
        (∃ s, (whereClause wl others).outcome = .ok s) ∧
          wl.canSearch column = true ∧ f.Fits) ∧
      ((∃ s, (whereClause wl others).outcome = .ok s) →
        wl.canSearch column = false →
        (whereClause wl all).outcome = .error (.columnNotAllowed column)) := by
  refine ⟨Whitelist.canSearch_iff_entryOrExpression,
    Whitelist.entryOrExpression_and_not_canSearch_iff, ?_⟩
  intro before front rest after operator operand f others all
  constructor
  · rw [Whitelist.canSearch_iff_searchable]
    exact whereClause_member_isOk_iff
  · intro hothers hcolumn
    rw [← Bool.not_eq_true, Whitelist.canSearch_iff_searchable] at hcolumn
    exact whereClause_member_eq_error hothers hcolumn

/-- An aliased entry is refused in a group in which its expression is taken,
after a condition on the entry itself. -/
theorem groups_take_unaliased_columns_aliased :
    let wl := Whitelist.ofLists [] ["id", "users.name AS name", "COUNT(id) AS n"]
    let before : List Criterion :=
      [.filter ⟨"users.name AS name", .equal, .single (.text "ann")⟩]
    let front : List Filter := [⟨"id", .like, .single (.text "a")⟩]
    let whole : Filter := ⟨"users.name AS name", .like, .single (.text "a")⟩
    let bare : Filter := ⟨"users.name", .like, .single (.text "a")⟩
    (whereClause wl (.withGroup before (front ++ []) [])).outcome =
        .ok ⟨"WHERE 1=1 AND users.name AS name = ? AND (id LIKE ?)",
          [.text "ann", .text "%a%"]⟩ ∧
      wl.EntryOrExpression "users.name AS name" ∧
      wl.canSearch "users.name AS name" = false ∧
      (whereClause wl (.withGroup before (front ++ [whole]) [])).outcome =
        .error (.columnNotAllowed "users.name AS name") ∧
      wl.canSearch "users.name" = true ∧ bare.Fits ∧
      ∃ s, (whereClause wl
        (.withGroup before (front ++ [bare]) [])).outcome = .ok s := by
  intro wl before front whole bare
  have hothers : (whereClause wl (.withGroup before (front ++ []) [])).outcome =
      .ok ⟨"WHERE 1=1 AND users.name AS name = ? AND (id LIKE ?)",
        [.text "ann", .text "%a%"]⟩ := rfl
  have hrefused : wl.canSearch "users.name AS name" = false := by decide
  have htaken : wl.canSearch "users.name" = true := by decide
  have hfits : bare.Fits := by
    intro vs hvs
    cases hvs
  obtain ⟨-, -, hwhole⟩ :=
    groups_take_unaliased_columns wl "users.name AS name"
  obtain ⟨-, -, hbare⟩ := groups_take_unaliased_columns wl "users.name"
  obtain ⟨-, herror⟩ :=
    hwhole before front [] [] .like (.single (.text "a"))
  obtain ⟨haccepted, -⟩ :=
    hbare before front [] [] .like (.single (.text "a"))
  have hentry : wl.EntryOrExpression "users.name AS name" :=
    ⟨by decide, .inl (by decide)⟩
  exact ⟨hothers, hentry, hrefused, herror ⟨_, hothers⟩ hrefused, htaken, hfits,
    haccepted.mpr ⟨⟨_, hothers⟩, htaken, hfits⟩⟩

/-- A group of alternatives does not take every entry without a parenthesis. -/
theorem not_groups_take_every_entry :
    ¬∀ (wl : Whitelist) (column : String),
      (wl.canSearch column = true ↔ wl.EntryOrExpression column) ∧
      ∀ operator operand, (⟨column, operator, operand⟩ : Filter).Fits →
        ((∃ s, (whereClause wl
          ⟨[.anyOf [⟨column, operator, operand⟩]]⟩).outcome = .ok s) ↔
          wl.EntryOrExpression column) := by
  intro h
  let wl := Whitelist.ofLists [] ["users.name AS name"]
  have hentry : "users.name AS name" ∈ wl.columns := by decide
  obtain ⟨hrule, -⟩ := h wl "users.name AS name"
  exact absurd (hrule.mpr ⟨by decide, .inl hentry⟩) (by decide)

end GuardedSql
