import GuardedSql.Proofs.Plans
import GuardedSql.Proofs.Precedence

/-!
# What a search leaves

A search appends a group of alternatives to the filters of a table.  The group
is joined by `AND`, which binds tighter than `OR`: it narrows the last
conjunction, and a row of which an earlier conjunction is true is kept whether
the search finds it or not.  Filters that are never joined by `OR` make a
single conjunction, so there the search leaves only rows that it finds.
-/

namespace GuardedSql

namespace Predicate

/-! ## A term at the end -/

/-- Whether what has been read since the last `OR` is true. -/
def holdsSinceOr (truth : Condition → Bool) : Bool → Predicate → Bool
  | soFar, [] => soFar
  | soFar, t :: rest =>
    match t.connective with
    | .and => holdsSinceOr truth (soFar && t.holds truth) rest
    | .or => holdsSinceOr truth (t.holds truth) rest

/-- Whether what has been read before some `OR` is true. -/
def holdsBeforeOr (truth : Condition → Bool) : Bool → Predicate → Bool
  | _, [] => false
  | soFar, t :: rest =>
    match t.connective with
    | .and => holdsBeforeOr truth (soFar && t.holds truth) rest
    | .or => soFar || holdsBeforeOr truth (t.holds truth) rest

section

variable {truth : Condition → Bool} {soFar : Bool} {t : Term} {p : Predicate}

theorem holdsFrom_cons_and (ht : t.connective = .and) :
    holdsFrom truth soFar (t :: p) =
      holdsFrom truth (soFar && t.holds truth) p := by
  simp only [holdsFrom, ht]

theorem holdsFrom_cons_or (ht : t.connective = .or) :
    holdsFrom truth soFar (t :: p) =
      (soFar || holdsFrom truth (t.holds truth) p) := by
  simp only [holdsFrom, ht]

theorem holdsSinceOr_cons_and (ht : t.connective = .and) :
    holdsSinceOr truth soFar (t :: p) =
      holdsSinceOr truth (soFar && t.holds truth) p := by
  simp only [holdsSinceOr, ht]

theorem holdsSinceOr_cons_or (ht : t.connective = .or) :
    holdsSinceOr truth soFar (t :: p) =
      holdsSinceOr truth (t.holds truth) p := by
  simp only [holdsSinceOr, ht]

theorem holdsBeforeOr_cons_and (ht : t.connective = .and) :
    holdsBeforeOr truth soFar (t :: p) =
      holdsBeforeOr truth (soFar && t.holds truth) p := by
  simp only [holdsBeforeOr, ht]

theorem holdsBeforeOr_cons_or (ht : t.connective = .or) :
    holdsBeforeOr truth soFar (t :: p) =
      (soFar || holdsBeforeOr truth (t.holds truth) p) := by
  simp only [holdsBeforeOr, ht]

end

/-- What follows is joined to what has been read since the last `OR`, and it
changes nothing about what stands before an `OR`. -/
theorem holdsFrom_append {truth : Condition → Bool} (soFar : Bool)
    (p q : Predicate) :
    holdsFrom truth soFar (p ++ q) =
      (holdsBeforeOr truth soFar p ||
        holdsFrom truth (holdsSinceOr truth soFar p) q) := by
  induction p generalizing soFar with
  | nil => simp [holdsBeforeOr, holdsSinceOr]
  | cons t rest ih =>
      rw [List.cons_append]
      cases ht : t.connective with
      | and =>
          rw [holdsFrom_cons_and ht, holdsBeforeOr_cons_and ht,
            holdsSinceOr_cons_and ht, ih]
      | or =>
          rw [holdsFrom_cons_or ht, holdsBeforeOr_cons_or ht,
            holdsSinceOr_cons_or ht, ih, Bool.or_assoc]

theorem holdsFrom_eq_beforeOr_or_sinceOr {truth : Condition → Bool}
    (soFar : Bool) (p : Predicate) :
    holdsFrom truth soFar p =
      (holdsBeforeOr truth soFar p || holdsSinceOr truth soFar p) := by
  simpa [holdsFrom] using @holdsFrom_append truth soFar p []

/-! Terms that are all joined by the same word narrow or widen what they follow
as a whole. -/

section

variable {truth : Condition → Bool} {q : Predicate}

theorem holdsFrom_of_forall_and (hq : ∀ t ∈ q, t.connective = .and)
    (soFar : Bool) :
    holdsFrom truth soFar q = (soFar && q.all (Term.holds truth)) := by
  induction q generalizing soFar with
  | nil => simp [holdsFrom]
  | cons t rest ih =>
      obtain ⟨ht, hrest⟩ := List.forall_mem_cons.mp hq
      rw [holdsFrom_cons_and ht, ih hrest, List.all_cons, Bool.and_assoc]

theorem holdsFrom_of_forall_or (hq : ∀ t ∈ q, t.connective = .or)
    (soFar : Bool) :
    holdsFrom truth soFar q = (soFar || q.any (Term.holds truth)) := by
  induction q generalizing soFar with
  | nil => simp [holdsFrom]
  | cons t rest ih =>
      obtain ⟨ht, hrest⟩ := List.forall_mem_cons.mp hq
      rw [holdsFrom_cons_or ht, ih hrest, List.any_cons]

/-- Terms that are appended by `AND` do not narrow what stands before an
`OR`. -/
theorem holdsFrom_append_of_forall_and (hq : ∀ t ∈ q, t.connective = .and)
    (soFar : Bool) (p : Predicate) :
    holdsFrom truth soFar (p ++ q) =
      (holdsFrom truth soFar p &&
        (q.all (Term.holds truth) || holdsBeforeOr truth soFar p)) := by
  rw [holdsFrom_append, holdsFrom_eq_beforeOr_or_sinceOr soFar p,
    holdsFrom_of_forall_and hq]
  cases holdsBeforeOr truth soFar p with
  | true => simp
  | false => simp

theorem holdsFrom_append_of_forall_or (hq : ∀ t ∈ q, t.connective = .or)
    (soFar : Bool) (p : Predicate) :
    holdsFrom truth soFar (p ++ q) =
      (holdsFrom truth soFar p || q.any (Term.holds truth)) := by
  rw [holdsFrom_append, holdsFrom_eq_beforeOr_or_sinceOr soFar p,
    holdsFrom_of_forall_or hq, Bool.or_assoc]

theorem holdsFrom_append_and {last : Term} (hlast : last.connective = .and)
    (soFar : Bool) (p : Predicate) :
    holdsFrom truth soFar (p ++ [last]) =
      (holdsFrom truth soFar p &&
        (last.holds truth || holdsBeforeOr truth soFar p)) := by
  simpa using holdsFrom_append_of_forall_and
    (List.forall_mem_singleton.mpr hlast) soFar p

end

/-- Some `OR` is preceded by terms that are true by themselves. -/
theorem holdsBeforeOr_eq_true_iff {truth : Condition → Bool} {soFar : Bool}
    {p : Predicate} :
    holdsBeforeOr truth soFar p = true ↔
      ∃ i t, p[i]? = some t ∧ t.connective = .or ∧
        holdsFrom truth soFar (p.take i) = true := by
  induction p generalizing soFar with
  | nil => simp [holdsBeforeOr]
  | cons first rest ih =>
      cases hfirst : first.connective with
      | and =>
          rw [holdsBeforeOr_cons_and hfirst, ih]
          constructor
          · rintro ⟨i, t, hi, ht, hholds⟩
            refine ⟨i + 1, t, hi, ht, ?_⟩
            rw [List.take_succ_cons, holdsFrom_cons_and hfirst, hholds]
          · rintro ⟨_ | i, t, hi, ht, hholds⟩
            · cases hi
              rw [hfirst] at ht
              cases ht
            · rw [List.take_succ_cons, holdsFrom_cons_and hfirst] at hholds
              exact ⟨i, t, hi, ht, hholds⟩
      | or =>
          rw [holdsBeforeOr_cons_or hfirst, Bool.or_eq_true, ih]
          constructor
          · rintro (hsoFar | ⟨i, t, hi, ht, hholds⟩)
            · exact ⟨0, first, rfl, hfirst, hsoFar⟩
            · refine ⟨i + 1, t, hi, ht, ?_⟩
              rw [List.take_succ_cons, holdsFrom_cons_or hfirst, hholds,
                Bool.or_true]
          · rintro ⟨_ | i, t, hi, ht, hholds⟩
            · exact .inl hholds
            · rw [List.take_succ_cons, holdsFrom_cons_or hfirst,
                Bool.or_eq_true] at hholds
              exact hholds.imp_right fun hrest => ⟨i, t, hi, ht, hrest⟩

end Predicate

/-! ## The group of a search -/

def searchCondition (search column : String) : Condition :=
  ⟨column, .like (.text ("%" ++ search ++ "%"))⟩

theorem Filter.Yields.eq_of_like {column : String} {v : Value} {c : Condition}
    (h : Filter.Yields ⟨column, .like, .single v⟩ c) :
    ⟨column, .like v.pattern⟩ = c := by
  cases h with
  | compare hoperator => exact absurd hoperator (by decide)
  | like _ => rfl

namespace PagedTable

variable {d : PagedTable} {search : String}

/-- A search text is not blank, so no member of its group is skipped. -/
theorem not_isSkipped_of_mem_searchGroup (hsearch : search ≠ "") {f : Filter}
    (hf : f ∈ d.searchGroup search) : f.isSkipped = false := by
  obtain ⟨column, -, rfl⟩ := List.mem_map.mp hf
  exact String.isEmpty_eq_false_iff.mpr hsearch

theorem termOf_searchGroup {wl : Whitelist} {t? : Option Term}
    (hsearch : search ≠ "") (htargets : d.targets ≠ [])
    (h : (Predicate.termOf wl (.anyOf (d.searchGroup search))).outcome =
      .ok t?) :
    t? = some (.anyOf (d.targets.map (searchCondition search))) := by
  have hkept : (d.searchGroup search).filter (fun f => !f.isSkipped) =
      d.searchGroup search := by
    rw [List.filter_eq_self]
    intro f hf
    rw [not_isSkipped_of_mem_searchGroup hsearch hf, Bool.not_false]
  rcases Criterion.isRendering_of_termOf h with
    ⟨hskipped, -⟩ | ⟨-, t, rfl, hyields⟩
  · rw [Criterion.isSkipped_iff] at hskipped
    have hempty : d.searchGroup search = [] := hkept.symm.trans hskipped
    exact absurd (List.map_eq_nil_iff.mp hempty) htargets
  · cases hyields with
    | @anyOf _ cs hcs =>
        rw [hkept, searchGroup, List.forall₂_map_left_iff] at hcs
        have hconditions : List.Forall₂ Eq
            (d.targets.map (searchCondition search)) cs := by
          rw [List.forall₂_map_left_iff]
          exact hcs.imp fun column c hc => hc.eq_of_like
        rw [List.forall₂_eq_eq_eq] at hconditions
        rw [hconditions]

/-- The predicate of a search is that of the filters of the table, followed by
the group of the search. -/
theorem ofFilters_restriction {p' : Predicate} (hsearch : search ≠ "")
    (htargets : d.targets ≠ [])
    (h : (Predicate.ofFilters d.whitelist (d.restriction search)).outcome =
      .ok p') :
    ∃ p, (Predicate.ofFilters d.whitelist d.filters).outcome = .ok p ∧
      p' = p ++ [.anyOf (d.targets.map (searchCondition search))] := by
  have hgroup : d.searchGroup search ≠ [] := by
    simpa [searchGroup] using htargets
  have hrestriction : d.restriction search =
      d.filters ++ ⟨[.anyOf (d.searchGroup search)]⟩ := by
    rw [d.restriction_of_ne_empty hsearch, Filters.anyOf,
      if_neg (by simpa using hgroup)]
    rfl
  rw [hrestriction] at h
  obtain ⟨p, q, hp, hq, rfl⟩ := Predicate.ofFilters_append_eq_ok_iff.mp h
  obtain ⟨terms, hterms, rfl⟩ := Audited.outcome_bind_pure_eq_ok_iff.mp hq
  obtain ⟨t?, rest, hterm, hrest, rfl⟩ :=
    List.forall₂_cons_left_iff.mp (Audited.outcome_mapM_eq_ok_iff.mp hterms)
  rw [termOf_searchGroup hsearch htargets hterm,
    List.forall₂_nil_left_iff.mp hrest]
  exact ⟨p, hp, rfl⟩

/-- Some searched column contains the search text. -/
def Finds (d : PagedTable) (search : String) (truth : Condition → Bool) :
    Prop :=
  ∃ column ∈ d.targets, truth (searchCondition search column) = true

theorem holds_searchTerm_iff {truth : Condition → Bool} :
    (Term.anyOf (d.targets.map (searchCondition search))).holds truth = true ↔
      d.Finds search truth := by
  simp [Term.holds, Term.conditions, Finds]

end PagedTable

/-! ## Alternatives among the filters -/

theorem exists_getElem?_of_forall₂ {α β : Type} {R : α → β → Prop}
    {xs : List α} {ys : List β} (h : List.Forall₂ R xs ys) {i : Nat} {x : α}
    (hx : xs[i]? = some x) : ∃ y, ys[i]? = some y ∧ R x y := by
  induction h generalizing i with
  | nil => cases hx
  | cons hxy _ ih =>
      cases i with
      | zero =>
          cases hx
          exact ⟨_, rfl, hxy⟩
      | succ i => exact ih hx

/-- What stands before some filter that is joined by `OR` is true by itself. -/
def Filters.HoldBeforeAlternative (fs : Filters) (p : Predicate)
    (truth : Condition → Bool) : Prop :=
  ∃ i c, fs.rendered[i]? = some c ∧ c.IsAlternative ∧
    Predicate.holds truth (p.take i) = true

theorem Filters.holdBeforeAlternative_iff {wl : Whitelist} {fs : Filters}
    {p : Predicate} (hp : (Predicate.ofFilters wl fs).outcome = .ok p)
    {truth : Condition → Bool} :
    fs.HoldBeforeAlternative p truth ↔
      Predicate.holdsBeforeOr truth true p = true := by
  have hyields := Predicate.forall₂_yields_of_ofFilters hp
  have hyielded : List.Forall₂ (fun t c => Criterion.Yields c t) p fs.rendered :=
    hyields.flip
  rw [Predicate.holdsBeforeOr_eq_true_iff]
  constructor
  · rintro ⟨i, c, hc, halternative, hholds⟩
    obtain ⟨t, ht, hct⟩ := exists_getElem?_of_forall₂ hyields hc
    exact ⟨i, t, ht, hct.connective_eq_or_iff.mpr halternative, hholds⟩
  · rintro ⟨i, t, ht, hor, hholds⟩
    obtain ⟨c, hc, hct⟩ := exists_getElem?_of_forall₂ hyielded ht
    exact ⟨i, c, hc, hct.connective_eq_or_iff.mp hor, hholds⟩

/-! ## Searches -/

namespace PagedTable

/-- The filtered count and the rows of a page are restricted by one predicate.
It is true of a row when the filters of the table are and either the search
finds the row or what stands before some filter joined by `OR` is true by
itself.  Without such filters, the rows that are left are those that the
filters of the table select and the search finds. -/
theorem search_narrows_last_conjunction {d : PagedTable} {r : Request}
    {plan : Plan} (htargets : d.targets ≠ []) (hsearch : r.search ≠ "")
    (hplan : (d.plan r).outcome = .ok plan) :
    ∃ (p found : Predicate) (c : Select.Clauses) (joined : String),
      (Predicate.ofFilters d.whitelist d.filters).outcome = .ok p ∧
      (Predicate.ofFilters d.whitelist (d.restriction r.search)).outcome =
        .ok found ∧
      plan.filtered = c.count ∧ plan.data = c.data ∧
      c.base = Statement.concat
        [.ofText ("FROM " ++ d.table), .ofText joined, found.clause "WHERE"] ∧
      p.Reads "WHERE" (p.clause "WHERE") ∧
      found.Reads "WHERE" (found.clause "WHERE") ∧
      ∀ truth : Condition → Bool,
        (found.holds truth = true ↔ p.holds truth = true ∧
          (d.Finds r.search truth ∨
            d.filters.HoldBeforeAlternative p truth)) ∧
        ((∀ criterion ∈ d.filters.rendered, ¬criterion.IsAlternative) →
          (found.holds truth = true ↔
            p.holds truth = true ∧ d.Finds r.search truth)) := by
  obtain ⟨all, page, -, hpage, rfl⟩ := plan_eq_ok hplan
  obtain ⟨c, hc, rfl⟩ := Select.build_eq_ok hpage
  obtain ⟨joined, matching, hq⟩ := Select.exists_assembled hc
  obtain ⟨found, hfound, rfl⟩ := whereClause_eq_ok hq.conditions
  obtain ⟨p, hp, hterms⟩ := ofFilters_restriction hsearch htargets hfound
  refine ⟨p, found, c, joined, hp, hfound, rfl, rfl, hq.base,
    Predicate.reads_clause _ _, Predicate.reads_clause _ _, ?_⟩
  intro truth
  have hholds : found.holds truth = true ↔ p.holds truth = true ∧
      (d.Finds r.search truth ∨ d.filters.HoldBeforeAlternative p truth) := by
    rw [Filters.holdBeforeAlternative_iff hp, ← holds_searchTerm_iff, hterms,
      Predicate.holds, Predicate.holdsFrom_append_and rfl, Bool.and_eq_true,
      Bool.or_eq_true, Predicate.holds]
  refine ⟨hholds, ?_⟩
  intro hconjunction
  have hnone : ¬d.filters.HoldBeforeAlternative p truth := by
    rintro ⟨i, criterion, hcriterion, halternative, -⟩
    exact hconjunction criterion (List.mem_of_getElem? hcriterion) halternative
  rw [hholds, or_iff_left hnone]

/-- The filter joined by `OR` is skipped, so the filters of the table make a
single conjunction. -/
theorem search_narrows_last_conjunction_single :
    let status : Filter := ⟨"status", .equal, .single (.int 1)⟩
    let d : PagedTable :=
      { whitelist := .ofLists ["users"] ["status", "name AS n"]
        table := "users"
        filters := .ofList [status, ⟨"status", .orLike, .absent⟩] }
    let r : Request := { search := "ann" }
    d.targets ≠ [] ∧ r.search ≠ "" ∧ d.filters.rendered = [.filter status] ∧
      (∀ criterion ∈ d.filters.rendered, ¬criterion.IsAlternative) ∧
      ∃ plan p found, (d.plan r).outcome = .ok plan ∧
        (Predicate.ofFilters d.whitelist d.filters).outcome = .ok p ∧
        (Predicate.ofFilters d.whitelist (d.restriction r.search)).outcome =
          .ok found ∧
        ∀ truth : Condition → Bool, found.holds truth = true ↔
          p.holds truth = true ∧ d.Finds r.search truth := by
  intro status d r
  have htargets : d.targets ≠ [] := by
    unfold d
    decide
  have hsearch : r.search ≠ "" := by
    unfold r
    decide
  have hrendered : d.filters.rendered = [.filter status] := rfl
  have hconjunction :
      ∀ criterion ∈ d.filters.rendered, ¬criterion.IsAlternative := by
    rw [hrendered]
    rintro criterion hcriterion ⟨f, hf, hoperator⟩
    rw [List.mem_singleton.mp hcriterion] at hf
    cases hf
    cases hoperator
  have hplan : ∃ plan, (d.plan r).outcome = .ok plan := by
    unfold d r
    exact ⟨_, rfl⟩
  obtain ⟨plan, hplan⟩ := hplan
  obtain ⟨p, found, c, joined, hp, hfound, -, -, -, -, -, hholds⟩ :=
    search_narrows_last_conjunction htargets hsearch hplan
  exact ⟨htargets, hsearch, hrendered, hconjunction, plan, p, found, hplan, hp,
    hfound, fun truth => (hholds truth).2 hconjunction⟩

/-- A row that meets the first filter of a table is left by every search, when
the second filter is joined by `OR`. -/
theorem not_search_leaves_only_found :
    ¬∀ (d : PagedTable) (r : Request) (plan : Plan) (p found : Predicate),
      d.targets ≠ [] → r.search ≠ "" → (d.plan r).outcome = .ok plan →
      (Predicate.ofFilters d.whitelist d.filters).outcome = .ok p →
      (Predicate.ofFilters d.whitelist (d.restriction r.search)).outcome =
        .ok found →
      ∀ truth : Condition → Bool, found.holds truth = true ↔
        p.holds truth = true ∧ d.Finds r.search truth := by
  intro h
  let d : PagedTable :=
    { whitelist := .ofLists ["users"] ["status", "name"], table := "users"
      filters := (Filters.empty.equal "status" (.single (.int 1))).orLike
        "name" (.single (.text "bob")) }
  let r : Request := { search := "ann" }
  let truth : Condition → Bool := fun c =>
    match c.test with
    | .compare _ _ => true
    | _ => false
  have htargets : d.targets ≠ [] := by
    unfold d
    decide
  have hsearch : r.search ≠ "" := by
    unfold r
    decide
  have hplan : ∃ plan, (d.plan r).outcome = .ok plan := by
    unfold d r
    exact ⟨_, rfl⟩
  have hp : ∃ p, (Predicate.ofFilters d.whitelist d.filters).outcome = .ok p :=
    ⟨_, rfl⟩
  have hfound : ∃ found, (Predicate.ofFilters d.whitelist
      (d.restriction r.search)).outcome = .ok found ∧
        Predicate.holds truth found = true := by
    unfold d r
    exact ⟨_, rfl, rfl⟩
  obtain ⟨plan, hplan⟩ := hplan
  obtain ⟨p, hp⟩ := hp
  obtain ⟨found, hfound, hholds⟩ := hfound
  have hiff := h d r plan p found htargets hsearch hplan hp hfound truth
  obtain ⟨-, column, -, hcolumn⟩ := hiff.mp hholds
  cases hcolumn

end PagedTable

end GuardedSql
