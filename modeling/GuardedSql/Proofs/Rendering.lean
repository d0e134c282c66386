import GuardedSql.Predicate
import GuardedSql.Proofs.Outcome

/-!
# What filters come to

A filter is skipped when it has no value to compare with, and a group when all
of its members are skipped.  `Filter.Yields` and `Criterion.Yields` say which
condition or term any other filter or criterion comes to.

The main statement is `Predicate.forall₂_yields_of_ofFilters`: the terms of a
predicate are, one by one and in order, those that the criteria which are not
skipped come to.
-/

namespace GuardedSql

/-! ## Filters without a value -/

/-- Whether a filter is left out: a comparison with no value or a blank one, or
a choice from an empty list. -/
def Filter.isSkipped (f : Filter) : Bool :=
  match f.operator, f.operand with
  | .inList, .list vs => vs.isEmpty
  | .inList, _ => false
  | .between, _ => false
  | _, operand => operand.isBlank

def Criterion.members : Criterion → List Filter
  | .filter f => [f]
  | .anyOf group => group

/-- Whether a criterion is left out: none of its filters remains. -/
def Criterion.isSkipped (c : Criterion) : Bool :=
  c.members.all Filter.isSkipped

def Filters.rendered (fs : Filters) : List Criterion :=
  fs.criteria.filter fun c => !c.isSkipped

/-- The operators that write their symbol between a column and a value. -/
def Operator.comparisons : List Operator :=
  [.equal, .atLeast, .atMost, .greater, .less]

/-! ## Conditions and terms -/

/-- The condition that a filter with a value comes to. -/
inductive Filter.Yields : Filter → Condition → Prop
  | compare {column : String} {operator : Operator} {v : Value}
      (hoperator : operator ∈ Operator.comparisons) :
      Yields ⟨column, operator, .single v⟩ ⟨column, .compare operator.text v⟩
  | like {column : String} {operator : Operator} {v : Value}
      (hoperator : operator = .like ∨ operator = .orLike) :
      Yields ⟨column, operator, .single v⟩ ⟨column, .like v.pattern⟩
  | oneOf {column : String} {vs : List Value} :
      Yields ⟨column, .inList, .list vs⟩ ⟨column, .oneOf vs⟩
  | within {column : String} {low high : Value} :
      Yields ⟨column, .between, .list [low, high]⟩ ⟨column, .within low high⟩

/-- The term that a criterion comes to.  The skipped members of a group are
missing from it. -/
inductive Criterion.Yields : Criterion → Term → Prop
  | filter {f : Filter} {c : Condition} (h : f.Yields c) :
      Yields (.filter f) (.condition f.operator.connective c)
  | anyOf {group : List Filter} {cs : List Condition}
      (h : List.Forall₂ Filter.Yields
        (group.filter fun f => !f.isSkipped) cs) :
      Yields (.anyOf group) (.anyOf cs)

theorem Criterion.isSkipped_iff {c : Criterion} :
    c.isSkipped = true ↔ (c.members.filter fun f => !f.isSkipped) = [] := by
  unfold isSkipped
  rw [List.all_eq_true, List.filter_eq_nil_iff]
  simp only [Bool.not_eq_true', Bool.not_eq_false]

theorem Criterion.Yields.connective_eq {c : Criterion} {t : Term}
    (h : c.Yields t) :
    t.connective =
      match c with
      | .filter f => f.operator.connective
      | .anyOf _ => .and := by
  cases h with
  | _ => rfl

/-- An optional result is absent for a skipped item, and otherwise present and
in a relation to it. -/
def IsRendering {α β : Type} (skip : α → Bool) (R : α → β → Prop)
    (x : α) (y? : Option β) : Prop :=
  (skip x = true ∧ y? = none) ∨ (skip x = false ∧ ∃ y, y? = some y ∧ R x y)

theorem forall₂_filter_of_isRendering {α β : Type} {skip : α → Bool}
    {R : α → β → Prop} {xs : List α} {ys : List (Option β)}
    (h : List.Forall₂ (IsRendering skip R) xs ys) :
    List.Forall₂ R (xs.filter fun x => !skip x) (ys.filterMap id) := by
  induction h with
  | nil => exact .nil
  | @cons x y? xs ys hxy _ ih =>
      rcases hxy with ⟨hskip, rfl⟩ | ⟨hskip, y, rfl, hR⟩
      · simpa [hskip] using ih
      · simpa [hskip] using And.intro hR ih

theorem Filter.isRendering_of_condition? {f : Filter} {c? : Option Condition}
    (h : f.condition? = .ok c?) : IsRendering isSkipped Yields f c? := by
  obtain ⟨column, operator, operand⟩ := f
  cases operand with
  | absent =>
      cases operator with
      | inList => cases h
      | between => cases h
      | _ =>
          cases h
          exact .inl ⟨rfl, rfl⟩
  | single v =>
      cases hblank : v.isBlank with
      | true =>
          cases operator with
          | inList => cases h
          | between => cases h
          | _ =>
              simp only [condition?, test?, Operator.expectsList,
                Operand.isBlank, hblank] at h
              cases h
              exact .inl ⟨hblank, rfl⟩
      | false =>
          cases operator with
          | inList => cases h
          | between => cases h
          | like =>
              simp only [condition?, test?, Operator.expectsList,
                Operand.isBlank, hblank] at h
              cases h
              exact .inr ⟨hblank, _, rfl, .like (.inl rfl)⟩
          | orLike =>
              simp only [condition?, test?, Operator.expectsList,
                Operand.isBlank, hblank] at h
              cases h
              exact .inr ⟨hblank, _, rfl, .like (.inr rfl)⟩
          | _ =>
              simp only [condition?, test?, Operator.expectsList,
                Operand.isBlank, hblank] at h
              cases h
              exact .inr ⟨hblank, _, rfl, .compare (by decide)⟩
  | list vs =>
      cases operator with
      | inList =>
          cases vs with
          | nil =>
              cases h
              exact .inl ⟨rfl, rfl⟩
          | cons v vs =>
              cases h
              exact .inr ⟨rfl, _, rfl, .oneOf⟩
      | between =>
          match vs, h with
          | [low, high], h =>
              cases h
              exact .inr ⟨rfl, _, rfl, .within⟩
          | [], h => cases h
          | [_], h => cases h
          | _ :: _ :: _ :: _, h => cases h
      | _ => cases h

theorem Predicate.conditionOf_eq_ok {wl : Whitelist} {use : ColumnUse}
    {f : Filter} {c? : Option Condition}
    (h : (conditionOf wl use f).outcome = .ok c?) :
    wl.allows use f.column = true ∧ f.condition? = .ok c? := by
  unfold conditionOf at h
  rw [Audited.outcome_bind_eq_ok_iff] at h
  obtain ⟨_, hcheck, hcondition⟩ := h
  rw [Whitelist.outcome_checkColumn] at hcheck
  split at hcheck
  · rename_i hallows
    exact ⟨hallows, hcondition⟩
  · cases hcheck

theorem Filter.isRendering_of_conditionOf {wl : Whitelist} {use : ColumnUse}
    {f : Filter} {c? : Option Condition}
    (h : (Predicate.conditionOf wl use f).outcome = .ok c?) :
    IsRendering isSkipped Yields f c? :=
  isRendering_of_condition? (Predicate.conditionOf_eq_ok h).2

/-! ## Predicates -/

theorem Criterion.isRendering_of_termOf {wl : Whitelist} {c : Criterion}
    {t? : Option Term} (h : (Predicate.termOf wl c).outcome = .ok t?) :
    IsRendering isSkipped Yields c t? := by
  cases c with
  | filter f =>
      obtain ⟨c?, hc, rfl⟩ := Audited.outcome_bind_pure_eq_ok_iff.mp h
      rcases Filter.isRendering_of_conditionOf hc with
        ⟨hskip, rfl⟩ | ⟨hskip, c, rfl, hyields⟩
      · refine .inl ⟨?_, rfl⟩
        simp [isSkipped, members, hskip]
      · refine .inr ⟨?_, _, rfl, .filter hyields⟩
        simp [isSkipped, members, hskip]
  | anyOf group =>
      obtain ⟨cs, hcs, rfl⟩ := Audited.outcome_bind_pure_eq_ok_iff.mp h
      have hmembers : List.Forall₂ (IsRendering Filter.isSkipped Filter.Yields)
          group cs :=
        (Audited.outcome_mapM_eq_ok_iff.mp hcs).imp
          fun _ _ hfc => Filter.isRendering_of_conditionOf hfc
      have hyields := forall₂_filter_of_isRendering hmembers
      generalize cs.filterMap id = alternatives at hyields
      have hskip : isSkipped (.anyOf group) = true ↔ alternatives = [] := by
        rw [isSkipped_iff]
        change (group.filter fun f => !f.isSkipped) = [] ↔ _
        rw [← List.length_eq_zero_iff, hyields.length_eq,
          List.length_eq_zero_iff]
      cases alternatives with
      | nil => exact .inl ⟨hskip.mpr rfl, rfl⟩
      | cons c rest =>
          refine .inr ⟨?_, _, rfl, .anyOf hyields⟩
          rw [← Bool.not_eq_true, hskip]
          exact List.cons_ne_nil c rest

/-- The terms of a predicate are those of the criteria that are not skipped,
one by one and in order. -/
theorem Predicate.forall₂_yields_of_ofFilters {wl : Whitelist} {fs : Filters}
    {p : Predicate} (h : (ofFilters wl fs).outcome = .ok p) :
    List.Forall₂ Criterion.Yields fs.rendered p := by
  obtain ⟨ts, hts, rfl⟩ := Audited.outcome_bind_pure_eq_ok_iff.mp h
  apply forall₂_filter_of_isRendering
  exact (Audited.outcome_mapM_eq_ok_iff.mp hts).imp
    fun _ _ hct => Criterion.isRendering_of_termOf hct

/-! ## Conditions and filters -/

theorem Filter.Yields.column_eq {f : Filter} {c : Condition}
    (h : f.Yields c) : c.column = f.column := by
  cases h with
  | _ => rfl

/-- The conditions of a term are those of the members that are not skipped. -/
theorem Criterion.Yields.forall₂_members {criterion : Criterion} {t : Term}
    (h : criterion.Yields t) (hkept : criterion.isSkipped = false) :
    List.Forall₂ Filter.Yields
      (criterion.members.filter fun f => !f.isSkipped) t.conditions := by
  rcases h with @⟨f, _, hcondition⟩ | hmembers
  · have hfilter : f.isSkipped = false := by
      simpa [isSkipped, members] using hkept
    simpa [members, hfilter, Term.conditions] using hcondition
  · exact hmembers

theorem exists_mem_of_forall₂ {α β : Type} {R : α → β → Prop} {xs : List α}
    {ys : List β} (h : List.Forall₂ R xs ys) {x : α} (hx : x ∈ xs) :
    ∃ y ∈ ys, R x y := by
  induction h with
  | nil => exact absurd hx List.not_mem_nil
  | cons hxy _ ih =>
      rcases List.mem_cons.mp hx with rfl | hx
      · exact ⟨_, List.mem_cons_self, hxy⟩
      · obtain ⟨y, hy, hR⟩ := ih hx
        exact ⟨y, List.mem_cons_of_mem _ hy, hR⟩

namespace Predicate

variable {wl : Whitelist} {fs : Filters} {p : Predicate}

/-- Every condition of a predicate is that of some filter with a value. -/
theorem exists_member_of_condition (h : (ofFilters wl fs).outcome = .ok p)
    {t : Term} (ht : t ∈ p) {c : Condition} (hc : c ∈ t.conditions) :
    ∃ criterion ∈ fs.criteria, criterion.Yields t ∧
      ∃ f ∈ criterion.members, f.isSkipped = false ∧ f.Yields c := by
  obtain ⟨criterion, hcriterion, hyields⟩ :=
    exists_mem_of_forall₂ (forall₂_yields_of_ofFilters h).flip ht
  obtain ⟨hmem, hkept⟩ := List.mem_filter.mp hcriterion
  rw [Bool.not_eq_true'] at hkept
  obtain ⟨f, hf, hcondition⟩ :=
    exists_mem_of_forall₂ (hyields.forall₂_members hkept).flip hc
  obtain ⟨hmember, hfilter⟩ := List.mem_filter.mp hf
  rw [Bool.not_eq_true'] at hfilter
  exact ⟨criterion, hmem, hyields, f, hmember, hfilter, hcondition⟩

/-- Every filter with a value has its condition in the predicate. -/
theorem exists_condition_of_member (h : (ofFilters wl fs).outcome = .ok p)
    {criterion : Criterion} (hcriterion : criterion ∈ fs.criteria) {f : Filter}
    (hf : f ∈ criterion.members) (hkept : f.isSkipped = false) :
    ∃ t ∈ p, criterion.Yields t ∧ ∃ c ∈ t.conditions, f.Yields c := by
  have hrendered : criterion.isSkipped = false := by
    rw [Criterion.isSkipped, List.all_eq_false]
    exact ⟨f, hf, by rw [hkept]; exact Bool.false_ne_true⟩
  have hmem : criterion ∈ fs.rendered :=
    List.mem_filter.mpr ⟨hcriterion, by rw [hrendered]; rfl⟩
  obtain ⟨t, ht, hyields⟩ :=
    exists_mem_of_forall₂ (forall₂_yields_of_ofFilters h) hmem
  have hmember : f ∈ criterion.members.filter fun f => !f.isSkipped :=
    List.mem_filter.mpr ⟨hf, by rw [hkept]; rfl⟩
  obtain ⟨c, hc, hcondition⟩ :=
    exists_mem_of_forall₂ (hyields.forall₂_members hrendered) hmember
  exact ⟨t, ht, hyields, c, hc, hcondition⟩

end Predicate

/-- The predicate of joined lists of filters is made of the predicates of each
of them. -/
theorem Predicate.ofFilters_append (wl : Whitelist) (fs gs : Filters) :
    ofFilters wl (fs ++ gs) = do
      let p ← ofFilters wl fs
      let q ← ofFilters wl gs
      return p ++ q := by
  simp only [ofFilters, Filters.criteria_append, List.mapM_append,
    List.filterMap_append, bind_assoc, pure_bind]

theorem Predicate.ofFilters_append_eq_ok_iff {wl : Whitelist}
    {fs gs : Filters} {r : Predicate} :
    (ofFilters wl (fs ++ gs)).outcome = .ok r ↔
      ∃ p q, (ofFilters wl fs).outcome = .ok p ∧
        (ofFilters wl gs).outcome = .ok q ∧ p ++ q = r := by
  rw [ofFilters_append, Audited.outcome_bind_eq_ok_iff]
  simp only [Audited.outcome_bind_pure_eq_ok_iff, exists_and_left]

/-! ## Clauses -/

theorem whereClause_eq_ok {wl : Whitelist} {fs : Filters} {s : Statement}
    (h : (whereClause wl fs).outcome = .ok s) :
    ∃ p, (Predicate.ofFilters wl fs).outcome = .ok p ∧
      p.clause "WHERE" = s :=
  Audited.outcome_bind_pure_eq_ok_iff.mp h

theorem havingClause_eq_ok {wl : Whitelist} {fs : Filters} {s : Statement}
    (h : (havingClause wl fs).outcome = .ok s) :
    (fs.criteria = [] ∧ s = .empty) ∨
      ∃ p, (Predicate.ofFilters wl fs).outcome = .ok p ∧
        p.clause "HAVING" = s := by
  unfold havingClause at h
  split at h
  · rename_i hempty
    cases h
    exact .inl ⟨List.isEmpty_iff.mp hempty, rfl⟩
  · exact .inr (Audited.outcome_bind_pure_eq_ok_iff.mp h)

end GuardedSql
