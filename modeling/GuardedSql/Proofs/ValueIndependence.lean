import GuardedSql.Change
import GuardedSql.Proofs.Outcome
import GuardedSql.Proofs.Rows
import GuardedSql.Select

/-!
# Values do not reach the text of a statement

Two inputs of a builder that differ only in their values are refused with the
same error or yield statements with the same text and equally many arguments.
Of the right-hand side of a filter the text may depend on its shape: whether it
is absent, whether a single value is blank, and how long a list is.
-/

namespace GuardedSql

/-! ## Inputs of the same shape -/

/-- Both right-hand sides are absent, both are single values and equally blank,
or both are lists of the same length. -/
inductive Operand.SameShape : Operand → Operand → Prop
  | absent : SameShape .absent .absent
  | single {v w : Value} (h : v.isBlank = w.isBlank) :
      SameShape (.single v) (.single w)
  | list {vs ws : List Value} (h : vs.length = ws.length) :
      SameShape (.list vs) (.list ws)

/-- Two filters differ at most in the values of their right-hand sides. -/
structure Filter.SameShape (f g : Filter) : Prop where
  column : f.column = g.column
  operator : f.operator = g.operator
  operand : f.operand.SameShape g.operand

/-- Both criteria are single filters or both are groups, member by member of
the same shape. -/
inductive Criterion.SameShape : Criterion → Criterion → Prop
  | filter {f g : Filter} (h : f.SameShape g) :
      SameShape (.filter f) (.filter g)
  | anyOf {fs gs : List Filter} (h : List.Forall₂ Filter.SameShape fs gs) :
      SameShape (.anyOf fs) (.anyOf gs)

/-- Two lists of criteria differ at most in the values of their filters. -/
def Filters.SameShape (fs gs : Filters) : Prop :=
  List.Forall₂ Criterion.SameShape fs.criteria gs.criteria

/-- Two queries differ at most in their window and in the values of their
filters. -/
structure Select.SameShape (q r : Select) : Prop where
  table : q.table = r.table
  columns : q.columns = r.columns
  filters : q.filters.SameShape r.filters
  joins : q.joins = r.joins
  groupBy : q.groupBy = r.groupBy
  having : q.having.SameShape r.having
  orderBy : q.orderBy = r.orderBy

theorem Operand.SameShape.refl (a : Operand) : a.SameShape a := by
  cases a with
  | absent => exact .absent
  | single v => exact .single rfl
  | list vs => exact .list rfl

theorem Filter.SameShape.refl (f : Filter) : f.SameShape f :=
  ⟨rfl, rfl, Operand.SameShape.refl f.operand⟩

theorem Criterion.SameShape.refl (c : Criterion) : c.SameShape c := by
  cases c with
  | filter f => exact .filter (Filter.SameShape.refl f)
  | anyOf group =>
      exact .anyOf (List.forall₂_same.mpr fun f _ => Filter.SameShape.refl f)

theorem Filters.SameShape.refl (fs : Filters) : fs.SameShape fs :=
  List.forall₂_same.mpr fun c _ => Criterion.SameShape.refl c

theorem Filters.SameShape.anyOf {fs gs : Filters} (h : fs.SameShape gs)
    {group group' : List Filter}
    (hgroup : List.Forall₂ Filter.SameShape group group') :
    (fs.anyOf group).SameShape (gs.anyOf group') := by
  cases hgroup with
  | nil => exact h
  | cons hfirst hrest =>
      exact List.rel_append h (.cons (.anyOf (.cons hfirst hrest)) .nil)

theorem Operand.SameShape.isBlank_eq {a b : Operand} (h : a.SameShape b) :
    a.isBlank = b.isBlank := by
  cases h with
  | absent => rfl
  | single h => exact h
  | list _ => rfl

theorem Filters.SameShape.isEmpty_eq {fs gs : Filters} (h : fs.SameShape gs) :
    fs.isEmpty = gs.isEmpty := by
  have hlength := List.Forall₂.length_eq h
  unfold Filters.isEmpty
  rw [Bool.eq_iff_iff, List.isEmpty_iff_length_eq_zero,
    List.isEmpty_iff_length_eq_zero, hlength]

/-! ## Results that are alike -/

/-- Two statements have the same text and equally many arguments. -/
structure Statement.Alike (s t : Statement) : Prop where
  sql : s.sql = t.sql
  args : s.args.length = t.args.length

namespace Statement.Alike

theorem refl (s : Statement) : s.Alike s :=
  ⟨rfl, rfl⟩

theorem append {s s' t t' : Statement} (h : s.Alike s') (h' : t.Alike t') :
    (s ++ t).Alike (s' ++ t') := by
  constructor
  · rw [sql_append, sql_append, h.sql, h'.sql]
  · rw [args_append, args_append, List.length_append, List.length_append,
      h.args, h'.args]

theorem concat {ss ts : List Statement} (h : List.Forall₂ Alike ss ts) :
    (concat ss).Alike (concat ts) := by
  induction h with
  | nil => exact refl _
  | cons hst _ ih =>
      rw [concat_cons, concat_cons]
      exact append hst ih

end Statement.Alike

/-- Two conditions are alike as pieces of a statement. -/
structure Condition.Alike (c d : Condition) : Prop where
  text : c.text = d.text
  args : c.args.length = d.args.length

def Term.Alike (t u : Term) : Prop :=
  t.statement.Alike u.statement

structure Select.Statements.Alike (s t : Select.Statements) : Prop where
  data : s.data.Alike t.data
  count : s.count.Alike t.count

structure Select.Clauses.Alike (c d : Select.Clauses) : Prop where
  columns : c.columns = d.columns
  base : c.base.Alike d.base
  groupBy : c.groupBy = d.groupBy
  having : c.having.Alike d.having
  orderBy : c.orderBy = d.orderBy
  window : c.window.Alike d.window

/-! ## Conditions and terms -/

theorem Filter.SameShape.agree_test {f g : Filter} (h : f.SameShape g) :
    Agree (Option.Rel fun t u =>
        Condition.Alike ⟨f.column, t⟩ ⟨g.column, u⟩) f.test? g.test? := by
  obtain ⟨column, operator, a⟩ := f
  obtain ⟨column', operator', b⟩ := g
  obtain ⟨hcolumn, hoperator, hoperand⟩ := h
  dsimp only at hcolumn hoperator hoperand
  subst hcolumn hoperator
  have hblank := hoperand.isBlank_eq
  unfold Filter.test?
  rw [hblank]
  split
  · exact .ok .none
  · cases hoperand with
    | absent =>
        cases operator with
        | _ => exact .error _
    | single _ =>
        cases operator with
        | inList => exact .error _
        | between => exact .error _
        | _ => exact .ok (.some ⟨rfl, rfl⟩)
    | @list vs ws hlength =>
        cases operator with
        | inList =>
            dsimp only
            cases vs with
            | nil =>
                have hws : ws = [] := List.eq_nil_of_length_eq_zero hlength.symm
                subst hws
                exact .ok .none
            | cons v vs =>
                cases ws with
                | nil => cases hlength
                | cons w ws =>
                    refine .ok (.some ⟨?_, hlength⟩)
                    simp only [Condition.text, hlength]
        | between =>
            match vs, ws, hlength with
            | [], [], _ => exact .error _
            | [_], [_], _ => exact .error _
            | [_, _], [_, _], _ => exact .ok (.some ⟨rfl, rfl⟩)
            | _ :: _ :: _ :: _, _ :: _ :: _ :: _, hlength =>
                dsimp only
                rw [hlength]
                exact .error _
        | _ => exact .error _

theorem Filter.SameShape.agree_condition {f g : Filter} (h : f.SameShape g) :
    Agree (Option.Rel Condition.Alike) f.condition? g.condition? := by
  have htest := h.agree_test
  unfold Filter.condition?
  generalize f.test? = t at htest
  generalize g.test? = u at htest
  cases htest with
  | error e => exact .error e
  | ok htu =>
      cases htu with
      | none => exact .ok .none
      | some halike => exact .ok (.some halike)

theorem Filter.SameShape.agree_conditionOf (wl : Whitelist) (use : ColumnUse)
    {f g : Filter} (h : f.SameShape g) :
    Agree (Option.Rel Condition.Alike) (Predicate.conditionOf wl use f).outcome
      (Predicate.conditionOf wl use g).outcome := by
  unfold Predicate.conditionOf
  rw [h.column]
  apply Agree.bind_same
  intro _
  rw [Audited.outcome_ofExcept, Audited.outcome_ofExcept]
  exact h.agree_condition

theorem forall₂_filterMap_id {α : Type} {R : α → α → Prop}
    {xs ys : List (Option α)} (h : List.Forall₂ (Option.Rel R) xs ys) :
    List.Forall₂ R (xs.filterMap id) (ys.filterMap id) :=
  List.rel_filterMap (fun _ _ hxy => hxy) h

/-- Groups whose members are alike are written alike. -/
theorem Term.Alike.anyOf {cs ds : List Condition}
    (h : List.Forall₂ Condition.Alike cs ds) :
    Term.Alike (.anyOf cs) (.anyOf ds) := by
  have htexts : cs.map Condition.text = ds.map Condition.text := by
    induction h with
    | nil => rfl
    | cons hcd _ ih => rw [List.map_cons, List.map_cons, hcd.text, ih]
  constructor
  · simp only [Term.statement, htexts]
  · show (cs.flatMap Condition.args).length = (ds.flatMap Condition.args).length
    clear htexts
    induction h with
    | nil => rfl
    | cons hcd _ ih =>
        rw [List.flatMap_cons, List.flatMap_cons, List.length_append,
          List.length_append, hcd.args, ih]

theorem Criterion.SameShape.agree_termOf (wl : Whitelist) {c d : Criterion}
    (h : c.SameShape d) :
    Agree (Option.Rel Term.Alike) (Predicate.termOf wl c).outcome
      (Predicate.termOf wl d).outcome := by
  cases h with
  | @filter f g hfg =>
      have hcondition := hfg.agree_conditionOf wl .plain
      refine hcondition.bind ?_
      intro c? d? hcd
      cases hcd with
      | none => exact .ok .none
      | some halike =>
          refine .ok (.some ⟨?_, halike.args⟩)
          simp only [Term.statement, hfg.operator, halike.text]
  | anyOf hgroup =>
      have hmembers := Agree.mapM hgroup fun f g hfg =>
        hfg.agree_conditionOf wl .searched
      refine hmembers.bind ?_
      intro cs ds hcs
      have halike := forall₂_filterMap_id hcs
      dsimp only
      generalize cs.filterMap id = as at halike
      generalize ds.filterMap id = bs at halike
      cases halike with
      | nil => exact .ok .none
      | cons hab hrest => exact .ok (.some (.anyOf (.cons hab hrest)))

/-! ## Clauses -/

theorem Filters.SameShape.agree_ofFilters (wl : Whitelist) {fs gs : Filters}
    (h : fs.SameShape gs) :
    Agree (List.Forall₂ Term.Alike) (Predicate.ofFilters wl fs).outcome
      (Predicate.ofFilters wl gs).outcome := by
  have hterms := Agree.mapM h fun c d hcd => hcd.agree_termOf wl
  refine hterms.bind ?_
  intro ts us htu
  exact .ok (forall₂_filterMap_id htu)

theorem Predicate.clause_alike (keyword : String) {p q : Predicate}
    (h : List.Forall₂ Term.Alike p q) :
    (clause keyword p).Alike (clause keyword q) := by
  have hterms : List.Forall₂ Statement.Alike (p.map Term.statement)
      (q.map Term.statement) := by
    rw [List.forall₂_map_left_iff, List.forall₂_map_right_iff]
    exact h
  have hstart := Statement.Alike.refl (.ofText (keyword ++ " 1=1"))
  exact Statement.Alike.concat (.cons hstart hterms)

theorem Filters.SameShape.agree_whereClause (wl : Whitelist) {fs gs : Filters}
    (h : fs.SameShape gs) :
    Agree Statement.Alike (whereClause wl fs).outcome
      (whereClause wl gs).outcome := by
  have hpredicate := h.agree_ofFilters wl
  refine hpredicate.bind ?_
  intro p q hpq
  exact .ok (Predicate.clause_alike "WHERE" hpq)

theorem Filters.SameShape.agree_havingClause (wl : Whitelist) {fs gs : Filters}
    (h : fs.SameShape gs) :
    Agree Statement.Alike (havingClause wl fs).outcome
      (havingClause wl gs).outcome := by
  unfold havingClause
  rw [h.isEmpty_eq]
  split
  · exact .ok (Statement.Alike.refl _)
  · have hpredicate := h.agree_ofFilters wl
    refine hpredicate.bind ?_
    intro p q hpq
    exact .ok (Predicate.clause_alike "HAVING" hpq)

/-! ## Selections -/

theorem Select.Clauses.Alike.data {c d : Select.Clauses} (h : c.Alike d) :
    c.data.Alike d.data := by
  apply Statement.Alike.concat
  rw [h.columns, h.groupBy, h.orderBy]
  exact .cons (Statement.Alike.refl _) <| .cons h.base <|
    .cons (Statement.Alike.refl _) <| .cons h.having <|
    .cons (Statement.Alike.refl _) <| .cons h.window .nil

theorem Select.Clauses.Alike.count {c d : Select.Clauses} (h : c.Alike d) :
    c.count.Alike d.count := by
  unfold Select.Clauses.count
  rw [h.groupBy, h.having.sql]
  split
  · apply Statement.Alike.concat
    exact .cons (Statement.Alike.refl _) (.cons h.base .nil)
  · have hgroups : (Statement.concat [.ofText "SELECT 1", c.base,
        .ofText d.groupBy, c.having]).Alike (Statement.concat
        [.ofText "SELECT 1", d.base, .ofText d.groupBy, d.having]) := by
      apply Statement.Alike.concat
      exact .cons (Statement.Alike.refl _) <| .cons h.base <|
        .cons (Statement.Alike.refl _) (.cons h.having .nil)
    constructor
    · dsimp only
      rw [hgroups.sql]
    · exact hgroups.args

theorem Select.SameShape.agree_clauses (wl : Whitelist) {q r : Select}
    (h : q.SameShape r) :
    Agree Select.Clauses.Alike (q.clauses wl).outcome (r.clauses wl).outcome := by
  have hwhere := h.filters.agree_whereClause wl
  have hgroups := h.having.agree_havingClause wl
  unfold Select.clauses
  rw [h.table, h.columns, h.joins, h.groupBy, h.orderBy]
  refine Agree.bind_same _ fun _ => ?_
  refine Agree.bind_same _ fun joins => ?_
  refine Agree.bind_same _ fun columns => ?_
  refine hwhere.bind ?_
  intro conditions conditions' hconditions
  refine Agree.bind_same _ fun groupBy => ?_
  refine hgroups.bind ?_
  intro having having' hhaving
  refine Agree.bind_same _ fun orderBy => ?_
  have hbase : List.Forall₂ Statement.Alike
      [.ofText ("FROM " ++ r.table), .ofText joins, conditions]
      [.ofText ("FROM " ++ r.table), .ofText joins, conditions'] :=
    .cons (Statement.Alike.refl _) <| .cons (Statement.Alike.refl _) <|
      .cons hconditions .nil
  exact .ok ⟨rfl, Statement.Alike.concat hbase, rfl, hhaving, rfl, rfl, rfl⟩

theorem Select.SameShape.agree_build (wl : Whitelist) {q r : Select}
    (h : q.SameShape r) :
    Agree Select.Statements.Alike (q.build wl).outcome (r.build wl).outcome := by
  have hclauses := h.agree_clauses wl
  refine hclauses.bind ?_
  intro c d hcd
  exact .ok ⟨hcd.data, hcd.count⟩

/-! ## Insertions -/

theorem Insert.fits_eq_of_keys_eq (wl : Whitelist) (columns : List String)
    {row row' : Record} (h : row.keys = row'.keys) :
    fits wl columns row = fits wl columns row' := by
  unfold fits columnsOf
  rw [h]

theorem Insert.length_valuesOf_eq_of_keys_eq (columns : List String)
    {row row' : Record} (h : row.keys = row'.keys) :
    (valuesOf columns row).length = (valuesOf columns row').length := by
  rw [length_valuesOf, length_valuesOf, h]

/-- The first row that does not fit is found by looking at the keys. -/
theorem Insert.findIdx?_fits_eq (wl : Whitelist) (columns : List String)
    {rows rows' : List Record}
    (h : List.Forall₂ (fun r r' => r.keys = r'.keys) rows rows') :
    (rows.findIdx? fun row => !fits wl columns row) =
      rows'.findIdx? fun row => !fits wl columns row :=
  findIdx?_not_fits_eq (h.imp fun _ _ => fits_eq_of_keys_eq wl columns)

theorem Insert.length_flatMap_valuesOf_eq (columns : List String)
    {rows rows' : List Record}
    (h : List.Forall₂ (fun r r' => r.keys = r'.keys) rows rows') :
    (rows.flatMap (valuesOf columns)).length =
      (rows'.flatMap (valuesOf columns)).length := by
  induction h with
  | nil => rfl
  | cons hkeys _ ih =>
      rw [List.flatMap_cons, List.flatMap_cons, List.length_append,
        List.length_append, ih, length_valuesOf_eq_of_keys_eq columns hkeys]

theorem agree_insertRows (wl : Whitelist) (table : String)
    (onDuplicate : List String) {rows rows' : List Record}
    (h : List.Forall₂ (fun r r' => r.keys = r'.keys) rows rows') :
    Agree Statement.Alike (insertRows wl table rows onDuplicate).outcome
      (insertRows wl table rows' onDuplicate).outcome := by
  unfold insertRows
  refine Agree.bind_same _ fun _ => ?_
  have hlength := h.length_eq
  have hfind := fun columns => Insert.findIdx?_fits_eq wl columns h
  have hargs := fun columns => Insert.length_flatMap_valuesOf_eq columns h
  cases h with
  | nil => exact .error _
  | @cons first first' _ _ hkeys _ =>
      have hcolumns :
          Insert.columnsOf wl first = Insert.columnsOf wl first' := by
        unfold Insert.columnsOf
        rw [hkeys]
      dsimp only
      rw [hcolumns]
      split
      · exact .error _
      · rw [hfind]
        split
        · exact .error _
        · refine .ok ⟨?_, hargs _⟩
          dsimp only
          rw [hlength]

/-! ## Updates and deletions -/

theorem agree_equalityClause (wl : Whitelist) {conditions conditions' : Record}
    (h : conditions.keys = conditions'.keys) :
    Agree Statement.Alike (equalityClause wl conditions).outcome
      (equalityClause wl conditions').outcome := by
  unfold equalityClause
  rw [h]
  refine Agree.bind_same _ fun _ => .ok ⟨rfl, ?_⟩
  dsimp only
  rw [Record.length_values, Record.length_values, h]

theorem Record.isEmpty_eq_of_keys_eq {r r' : Record} (h : r.keys = r'.keys) :
    r.isEmpty = r'.isEmpty := by
  rw [Bool.eq_iff_iff, isEmpty_iff_keys_eq_nil, isEmpty_iff_keys_eq_nil, h]

theorem agree_update (wl : Whitelist) (table : String)
    {data data' conditions conditions' : Record}
    (hdata : data.keys = data'.keys)
    (hconditions : conditions.keys = conditions'.keys) :
    Agree Statement.Alike (update wl table data conditions).outcome
      (update wl table data' conditions').outcome := by
  unfold update
  rw [hdata, Record.isEmpty_eq_of_keys_eq hdata,
    Record.isEmpty_eq_of_keys_eq hconditions]
  refine Agree.bind_same _ fun _ => ?_
  split
  · exact .error _
  · have hclause := agree_equalityClause wl hconditions
    refine Agree.bind_same _ fun _ => ?_
    refine hclause.bind ?_
    intro matching matching' hmatching
    have hstatement (sql : String) : Statement.Alike
        (⟨sql, data.values⟩ ++ matching) (⟨sql, data'.values⟩ ++ matching') := by
      refine Statement.Alike.append ⟨rfl, ?_⟩ hmatching
      dsimp only
      rw [Record.length_values, Record.length_values, hdata]
    split
    · exact .ok (hstatement _)
    · exact .ok (hstatement _)

theorem agree_delete (wl : Whitelist) (table : String)
    {conditions conditions' : Record}
    (h : conditions.keys = conditions'.keys) :
    Agree Statement.Alike (delete wl table conditions).outcome
      (delete wl table conditions').outcome := by
  have hclause := agree_equalityClause wl h
  unfold delete
  rw [Record.isEmpty_eq_of_keys_eq h]
  refine Agree.bind_same _ fun _ => ?_
  split
  · exact .error _
  · refine hclause.bind ?_
    intro matching matching' hmatching
    exact .ok (Statement.Alike.append (Statement.Alike.refl _) hmatching)

/-! ## Independence -/

/-- What a builder refuses and what it writes is decided by names, operators
and shapes.  Two runs on inputs that differ only in their values end with the
same error, or with the same text and equally many arguments. -/
theorem text_independent_of_values (wl : Whitelist) :
    (∀ q r : Select, q.SameShape r →
      Agree Select.Statements.Alike (q.build wl).outcome (r.build wl).outcome) ∧
    (∀ (table : String) (onDuplicate : List String) (row row' : Record),
      row.keys = row'.keys →
      Agree Statement.Alike (insertRow wl table row onDuplicate).outcome
        (insertRow wl table row' onDuplicate).outcome) ∧
    (∀ (table : String) (onDuplicate : List String) (rows rows' : List Record),
      rows.map Record.keys = rows'.map Record.keys →
      Agree Statement.Alike (insertRows wl table rows onDuplicate).outcome
        (insertRows wl table rows' onDuplicate).outcome) ∧
    (∀ (table : String) (data data' conditions conditions' : Record),
      data.keys = data'.keys → conditions.keys = conditions'.keys →
      Agree Statement.Alike (update wl table data conditions).outcome
        (update wl table data' conditions').outcome) ∧
    (∀ (table : String) (conditions conditions' : Record),
      conditions.keys = conditions'.keys →
      Agree Statement.Alike (delete wl table conditions).outcome
        (delete wl table conditions').outcome) := by
  refine ⟨?_, ?_, ?_, ?_, ?_⟩
  · intro q r h
    exact h.agree_build wl
  · intro table onDuplicate row row' h
    exact agree_insertRows wl table onDuplicate (.cons h .nil)
  · intro table onDuplicate rows rows' h
    apply agree_insertRows
    rw [← List.forall₂_eq_eq_eq, List.forall₂_map_left_iff,
      List.forall₂_map_right_iff] at h
    exact h
  · intro table data data' conditions conditions' hdata hconditions
    exact agree_update wl table hdata hconditions
  · intro table conditions conditions' h
    exact agree_delete wl table h

/-- A search text that looks like a condition, and a value that looks like a
placeholder, change nothing in the statements. -/
theorem text_independent_of_values_search :
    let wl := Whitelist.ofLists ["users"] ["id", "name"]
    let search (name : Value) (ids : List Value) (limit : UInt64) : Select :=
      { table := "users"
        filters := (Filters.empty.inList "id" (.list ids)).anyOf
          [⟨"name", .like, .single name⟩]
        limit := limit }
    let row (name : Value) : Record := .ofList [("id", .int 1), ("name", name)]
    let q := search (.text "ann") [.int 1, .int 2] 20
    let r := search (.text "' OR 1=1 --") [.null, .text "?"] 0
    (∃ s, (q.build wl).outcome = .ok s) ∧ q.SameShape r ∧
      Agree Select.Statements.Alike (q.build wl).outcome (r.build wl).outcome ∧
    (row .null).keys = (row (.text "?")).keys ∧
      Agree Statement.Alike
        (insertRow wl "users" (row .null) ["name"]).outcome
        (insertRow wl "users" (row (.text "?")) ["name"]).outcome ∧
      Agree Statement.Alike
        (insertRows wl "users" [row .null, row .null] []).outcome
        (insertRows wl "users" [row (.text "?"), row .null] []).outcome ∧
      Agree Statement.Alike
        (update wl "users" (row .null) (row .null)).outcome
        (update wl "users" (row (.text "?")) (row (.text "?"))).outcome ∧
      Agree Statement.Alike
        (delete wl "users" (row .null)).outcome
        (delete wl "users" (row (.text "?"))).outcome := by
  intro wl search row q r
  have hshape : q.SameShape r := by
    refine ⟨rfl, rfl, ?_, rfl, rfl, .nil, rfl⟩
    exact .cons (.filter ⟨rfl, rfl, .list rfl⟩) <|
      .cons (.anyOf (.cons ⟨rfl, rfl, .single rfl⟩ .nil)) .nil
  have hkeys : (row .null).keys = (row (.text "?")).keys := rfl
  obtain ⟨hselect, hinsertRow, hinsertRows, hupdate, hdelete⟩ :=
    text_independent_of_values wl
  exact ⟨⟨_, rfl⟩, hshape, hselect q r hshape, hkeys,
    hinsertRow "users" ["name"] _ _ hkeys,
    hinsertRows "users" [] _ _ rfl,
    hupdate "users" _ _ _ _ hkeys hkeys,
    hdelete "users" _ _ hkeys⟩

end GuardedSql
