import GuardedSql.Proofs.Search

/-!
# Criteria that are appended

Criteria at the end of a list are joined to the last conjunction of its
predicate, up to the first alternative among them.  So a predicate is narrowed
by criteria none of which is an alternative, and widened by criteria all of
which are.  It does not matter where the alternatives of the list itself stand,
nor which of its criteria are skipped: the predicate of the longer list starts
with that of the shorter one, term by term.
-/

namespace GuardedSql

namespace Predicate

/-! ## Implication -/

/-- Whichever conditions are true of a row, it is selected by the second
predicate if it is selected by the first one. -/
def Implies (p q : Predicate) : Prop :=
  ∀ truth : Condition → Bool, p.holds truth = true → q.holds truth = true

variable {p q : Predicate}

theorem append_implies_of_forall_and (hq : ∀ t ∈ q, t.connective = .and) :
    Implies (p ++ q) p := by
  intro truth hholds
  rw [holds, holdsFrom_append_of_forall_and hq, Bool.and_eq_true] at hholds
  exact hholds.1

theorem implies_append_of_forall_or (hq : ∀ t ∈ q, t.connective = .or) :
    Implies p (p ++ q) := by
  intro truth hholds
  rw [holds, holdsFrom_append_of_forall_or hq, Bool.or_eq_true]
  exact .inl hholds

end Predicate

/-! ## Criteria and their terms -/

theorem forall_mem_iff_of_forall₂ {α β : Type} {R : α → β → Prop}
    {P : α → Prop} {Q : β → Prop} (hPQ : ∀ x y, R x y → (P x ↔ Q y))
    {xs : List α} {ys : List β} (h : List.Forall₂ R xs ys) :
    (∀ x ∈ xs, P x) ↔ ∀ y ∈ ys, Q y := by
  induction h with
  | nil => simp
  | cons hxy _ ih =>
      rw [List.forall_mem_cons, List.forall_mem_cons, hPQ _ _ hxy, ih]

theorem Criterion.not_isAlternative_anyOf (group : List Filter) :
    ¬(Criterion.anyOf group).IsAlternative := by
  rintro ⟨f, hf, -⟩
  cases hf

section

variable {criteria : List Criterion} {p : Predicate}

theorem Criterion.Yields.forall_or_iff
    (h : List.Forall₂ Criterion.Yields criteria p) :
    (∀ c ∈ criteria, c.IsAlternative) ↔ ∀ t ∈ p, t.connective = .or :=
  forall_mem_iff_of_forall₂ (fun _ _ hct => hct.connective_eq_or_iff.symm) h

theorem Criterion.Yields.forall_and_iff
    (h : List.Forall₂ Criterion.Yields criteria p) :
    (∀ c ∈ criteria, ¬c.IsAlternative) ↔ ∀ t ∈ p, t.connective = .and := by
  refine forall_mem_iff_of_forall₂ (fun c t hct => ?_) h
  rw [← hct.connective_eq_or_iff]
  cases t.connective with
  | _ => decide

end

/-! ## Lists of filters -/

namespace Filters

variable {wl : Whitelist} {fs gs : Filters} {found : Predicate}

/-- The predicate of a longer list starts with that of the shorter one, and the
terms that follow are those of the criteria which are appended. -/
theorem exists_terms_of_append
    (h : (Predicate.ofFilters wl (fs ++ gs)).outcome = .ok found) :
    ∃ p q, (Predicate.ofFilters wl fs).outcome = .ok p ∧
      List.Forall₂ Criterion.Yields gs.rendered q ∧ found = p ++ q := by
  obtain ⟨p, q, hp, hq, rfl⟩ := Predicate.ofFilters_append_eq_ok_iff.mp h
  exact ⟨p, q, hp, Predicate.forall₂_yields_of_ofFilters hq, rfl⟩

/-- Appended criteria narrow a predicate if none of those that are not skipped
is an alternative, and widen it if all of them are. -/
theorem narrows_or_widens_of_append
    (h : (Predicate.ofFilters wl (fs ++ gs)).outcome = .ok found) :
    ∃ p, (Predicate.ofFilters wl fs).outcome = .ok p ∧
      ((∀ c ∈ gs.rendered, ¬c.IsAlternative) → found.Implies p) ∧
      ((∀ c ∈ gs.rendered, c.IsAlternative) → p.Implies found) ∧
      (gs.rendered = [] → found = p) := by
  obtain ⟨p, q, hp, hyields, rfl⟩ := exists_terms_of_append h
  refine ⟨p, hp, ?_, ?_, ?_⟩
  · intro hnone
    apply Predicate.append_implies_of_forall_and
    exact (Criterion.Yields.forall_and_iff hyields).mp hnone
  · intro hall
    apply Predicate.implies_append_of_forall_or
    exact (Criterion.Yields.forall_or_iff hyields).mp hall
  · intro hnil
    rw [hnil, List.forall₂_nil_left_iff] at hyields
    rw [hyields, List.append_nil]

theorem eq_of_mem_rendered_singleton {c d : Criterion}
    (h : d ∈ rendered ⟨[c]⟩) : d = c :=
  List.mem_singleton.mp (List.mem_of_mem_filter h)

theorem rendered_singleton_of_isSkipped {c : Criterion}
    (h : c.isSkipped = true) : rendered ⟨[c]⟩ = [] := by
  simp [rendered, h]

end Filters

/-! ## A single criterion -/

/-- A criterion at the end of a list of filters only narrows what the list
selects, unless it is an alternative: then it only widens it.  A criterion that
is skipped leaves the predicate as it is. -/
theorem appended_criterion_narrows_or_widens {wl : Whitelist} {fs : Filters}
    {c : Criterion} {s' : Statement}
    (hs' : (whereClause wl (fs ++ ⟨[c]⟩)).outcome = .ok s') :
    ∃ (s : Statement) (p p' : Predicate),
      (whereClause wl fs).outcome = .ok s ∧
      (Predicate.ofFilters wl fs).outcome = .ok p ∧ s = p.clause "WHERE" ∧
      p.Reads "WHERE" s ∧
      (Predicate.ofFilters wl (fs ++ ⟨[c]⟩)).outcome = .ok p' ∧
      s' = p'.clause "WHERE" ∧ p'.Reads "WHERE" s' ∧
      (¬c.IsAlternative → p'.Implies p) ∧
      (c.IsAlternative → p.Implies p') ∧
      (c.isSkipped = true → p' = p) := by
  obtain ⟨p', hp', rfl⟩ := whereClause_eq_ok hs'
  obtain ⟨p, hp, hnarrows, hwidens, hskips⟩ :=
    Filters.narrows_or_widens_of_append hp'
  have hwhere : (whereClause wl fs).outcome = .ok (p.clause "WHERE") :=
    Audited.outcome_bind_pure_eq_ok_iff.mpr ⟨p, hp, rfl⟩
  refine ⟨_, p, p', hwhere, hp, rfl, Predicate.reads_clause _ _, hp', rfl,
    Predicate.reads_clause _ _, ?_, ?_, ?_⟩
  · intro hnot
    refine hnarrows fun d hd => ?_
    rw [Filters.eq_of_mem_rendered_singleton hd]
    exact hnot
  · intro halternative
    refine hwidens fun d hd => ?_
    rw [Filters.eq_of_mem_rendered_singleton hd]
    exact halternative
  · intro hskipped
    exact hskips (Filters.rendered_singleton_of_isSkipped hskipped)

/-- A group narrows the conjunction after `OR` only, and rows that meet the
comparison are kept. -/
theorem appended_criterion_narrows_or_widens_after_alternative :
    let wl := Whitelist.ofLists [] ["status", "name"]
    let fs := (Filters.empty.equal "status" (.single (.int 1))).orLike "name"
      (.single (.text "bob"))
    let group : Criterion := .anyOf
      [⟨"name", .like, .single (.text "ann")⟩, ⟨"status", .equal, .absent⟩]
    let alternative : Criterion :=
      .filter ⟨"name", .orLike, .single (.text "eve")⟩
    let blank : Criterion := .filter ⟨"name", .orLike, .single (.text "")⟩
    ∃ p narrowed widened : Predicate,
      (Predicate.ofFilters wl fs).outcome = .ok p ∧
      (Predicate.ofFilters wl (fs ++ ⟨[group]⟩)).outcome = .ok narrowed ∧
      narrowed.Implies p ∧ ¬p.Implies narrowed ∧
      (Predicate.ofFilters wl (fs ++ ⟨[alternative]⟩)).outcome = .ok widened ∧
      p.Implies widened ∧ ¬widened.Implies p ∧
      (Predicate.ofFilters wl (fs ++ ⟨[blank]⟩)).outcome = .ok p := by
  intro wl fs group alternative blank
  have hgroup : ¬group.IsAlternative := Criterion.not_isAlternative_anyOf _
  have halternative : alternative.IsAlternative := ⟨_, rfl, rfl⟩
  let row : String → Condition → Bool := fun pattern c =>
    c.args == [.text pattern]
  obtain ⟨-, p, narrowed, -, hp, -, -, hnarrowed, -, -, hnarrows, -⟩ :=
    appended_criterion_narrows_or_widens
      (rfl : (whereClause wl (fs ++ ⟨[group]⟩)).outcome = .ok _)
  obtain ⟨-, p₁, widened, -, hp₁, -, -, hwidened, -, -, -, hwidens, -⟩ :=
    appended_criterion_narrows_or_widens
      (rfl : (whereClause wl (fs ++ ⟨[alternative]⟩)).outcome = .ok _)
  obtain ⟨-, p₂, same, -, hp₂, -, -, hsame, -, -, -, -, hskips⟩ :=
    appended_criterion_narrows_or_widens
      (rfl : (whereClause wl (fs ++ ⟨[blank]⟩)).outcome = .ok _)
  obtain rfl : p = p₁ := Except.ok.inj (hp.symm.trans hp₁)
  obtain rfl : p = p₂ := Except.ok.inj (hp.symm.trans hp₂)
  rw [hskips rfl] at hsame
  refine ⟨p, narrowed, widened, hp, hnarrowed, hnarrows hgroup, ?_,
    hwidened, hwidens halternative, ?_, hsame⟩
  · cases hp
    cases hnarrowed
    intro himplies
    exact absurd (himplies (row "%bob%") rfl) (by decide)
  · cases hp
    cases hwidened
    intro himplies
    exact absurd (himplies (row "%eve%") rfl) (by decide)

end GuardedSql
