import GuardedSql.Proofs.Concatenation
import GuardedSql.Proofs.Rendering

/-!
# Predicates as disjunctions of conjunctions

Since `AND` binds tighter than `OR`, a predicate is a disjunction of
conjunctions.  The first conjunction starts with `1=1`, and `leading` follows
there.  Each `OR` starts one of the others.  A predicate that starts with `OR`
is true of all rows, since nothing is left to narrow `1=1`.
-/

namespace GuardedSql

def Term.body : Term → String
  | .condition _ c => c.text
  | .anyOf alternatives =>
    "(" ++ " OR ".intercalate (alternatives.map Condition.text) ++ ")"

theorem Term.sql_statement (t : Term) :
    t.statement.sql = t.connective.text ++ " " ++ t.body := by
  cases t with
  | condition connective c => rfl
  | anyOf alternatives =>
      unfold statement connective body
      simp only [← String.append_assoc]
      rfl

theorem Term.holds_eq_false {truth : Condition → Bool} {t : Term}
    (h : ∀ c ∈ t.conditions, truth c = false) : t.holds truth = false := by
  unfold holds
  rw [List.any_eq_false]
  intro c hc
  rw [h c hc]
  exact Bool.false_ne_true

namespace Predicate

/-! ## Conjunctions -/

/-- The terms before the first `OR`. -/
def leading : Predicate → List Term
  | [] => []
  | t :: rest =>
    match t.connective with
    | .and => t :: leading rest
    | .or => []

/-- The conjunctions that start with `OR`. -/
def others : Predicate → List (List Term)
  | [] => []
  | t :: rest =>
    match t.connective with
    | .and => others rest
    | .or => (t :: leading rest) :: others rest

section

variable {t : Term} {p : Predicate}

theorem leading_cons_and (ht : t.connective = .and) :
    leading (t :: p) = t :: leading p := by
  simp only [leading, ht]

theorem leading_cons_or (ht : t.connective = .or) :
    leading (t :: p) = [] := by
  simp only [leading, ht]

theorem others_cons_and (ht : t.connective = .and) :
    others (t :: p) = others p := by
  simp only [others, ht]

theorem others_cons_or (ht : t.connective = .or) :
    others (t :: p) = (t :: leading p) :: others p := by
  simp only [others, ht]

theorem leading_cons_eq_nil_iff :
    leading (t :: p) = [] ↔ t.connective = .or := by
  cases ht : t.connective with
  | and => simp [leading_cons_and ht]
  | or => simp [leading_cons_or ht]

end

/-- No term is lost, and none is moved. -/
theorem leading_append_flatten_others (p : Predicate) :
    leading p ++ (others p).flatten = p := by
  induction p with
  | nil => rfl
  | cons t rest ih =>
      cases ht : t.connective with
      | and =>
          rw [leading_cons_and ht, others_cons_and ht, List.cons_append, ih]
      | or =>
          rw [leading_cons_or ht, others_cons_or ht, List.nil_append,
            List.flatten_cons, List.cons_append, ih]

theorem ne_nil_of_mem_others {p : Predicate} {conjunction : List Term}
    (h : conjunction ∈ others p) : conjunction ≠ [] := by
  induction p with
  | nil => exact absurd h List.not_mem_nil
  | cons t rest ih =>
      cases ht : t.connective with
      | and =>
          rw [others_cons_and ht] at h
          exact ih h
      | or =>
          rw [others_cons_or ht] at h
          rcases List.mem_cons.mp h with rfl | hrest
          · exact List.cons_ne_nil t (leading rest)
          · exact ih hrest

/-! ## Text -/

def conjunctionText (terms : List Term) : String :=
  " AND ".intercalate (terms.map Term.body)

theorem spaced_statement {before : String} (hbefore : before ≠ "") (t : Term) :
    Statement.spaced before t.statement.sql =
      before ++ (" " ++ t.connective.text ++ " ") ++ t.body := by
  have hstatement : t.statement.sql ≠ "" := by
    rw [t.sql_statement]
    simp
  rw [Statement.spaced_of_ne_empty hbefore hstatement, t.sql_statement]
  simp only [String.append_assoc]

/-- A predicate is written as its conjunctions with `OR` between them.  Each
term is appended either to the leading conjunction or to the one that an `OR`
has just started. -/
theorem sql_append_concat (p : Predicate) {a : Statement} (ha : a.sql ≠ "") :
    (a ++ Statement.concat (p.map Term.statement)).sql =
      " OR ".intercalate
        (" AND ".intercalate (a.sql :: (leading p).map Term.body) ::
          (others p).map conjunctionText) := by
  induction p generalizing a with
  | nil => simp [Statement.concat, leading, others]
  | cons t rest ih =>
      have hsql := spaced_statement ha t
      have hnext : (a ++ t.statement).sql ≠ "" := by
        rw [Statement.sql_append, hsql]
        simp [ha]
      rw [List.map_cons, Statement.concat_cons, ← Statement.append_assoc,
        ih hnext, Statement.sql_append, hsql]
      cases ht : t.connective with
      | and =>
          rw [leading_cons_and ht, others_cons_and ht]
          simp [Connective.text, String.append_assoc]
      | or =>
          rw [leading_cons_or ht, others_cons_or ht]
          simp [Connective.text, String.append_assoc, conjunctionText]

/-- The text of a clause is the disjunction of the conjunctions of its
predicate, the first of which starts with `1=1`. -/
theorem sql_clause (keyword : String) (p : Predicate) :
    (p.clause keyword).sql = keyword ++ " " ++
      " OR ".intercalate
        (" AND ".intercalate ("1=1" :: (leading p).map Term.body) ::
          (others p).map conjunctionText) := by
  have hstart : (Statement.ofText (keyword ++ " 1=1")).sql =
      keyword ++ (" " ++ "1=1") := rfl
  unfold clause
  rw [Statement.concat_cons, sql_append_concat p, hstart]
  · simp only [String.intercalate_cons_append, String.append_assoc]
  · simp [hstart]

/-- A predicate without a leading conjunction continues `1=1` with `OR`. -/
theorem sql_clause_of_leading_eq_nil {keyword : String} {p : Predicate}
    (h : leading p = []) (hp : p ≠ []) :
    (p.clause keyword).sql = keyword ++ " 1=1 OR " ++
      " OR ".intercalate ((others p).map conjunctionText) := by
  have hothers : others p ≠ [] := by
    intro hnil
    have hparts := leading_append_flatten_others p
    rw [h, hnil] at hparts
    exact hp hparts.symm
  obtain ⟨first, rest, hrest⟩ := List.exists_cons_of_ne_nil hothers
  have hstart : " " ++ ("1=1" ++ " OR ") = " 1=1 OR " := rfl
  rw [sql_clause, h, hrest, ← hstart]
  simp only [List.map_nil, List.map_cons, String.intercalate_singleton,
    String.intercalate_cons_cons, String.append_assoc]

/-! ## Truth -/

theorem holdsFrom_eq (truth : Condition → Bool) (soFar : Bool)
    (p : Predicate) :
    holdsFrom truth soFar p =
      (soFar && (leading p).all (Term.holds truth) ||
        (others p).any fun terms => terms.all (Term.holds truth)) := by
  induction p generalizing soFar with
  | nil => simp [holdsFrom, leading, others]
  | cons t rest ih =>
      unfold holdsFrom
      cases ht : t.connective with
      | and =>
          rw [leading_cons_and ht, others_cons_and ht, List.all_cons,
            ← Bool.and_assoc]
          exact ih (soFar && t.holds truth)
      | or =>
          rw [leading_cons_or ht, others_cons_or ht, List.any_cons,
            List.all_cons, List.all_nil, Bool.and_true]
          exact congrArg (soFar || ·) (ih (t.holds truth))

/-- A predicate is true when all terms of one of its conjunctions are. -/
theorem holds_eq_true_iff {truth : Condition → Bool} {p : Predicate} :
    p.holds truth = true ↔
      (∀ t ∈ leading p, t.holds truth = true) ∨
        ∃ terms ∈ others p, ∀ t ∈ terms, t.holds truth = true := by
  unfold holds
  rw [holdsFrom_eq, Bool.true_and, Bool.or_eq_true, List.all_eq_true,
    List.any_eq_true]
  simp only [List.all_eq_true]

/-- A statement is the text of a predicate as a database reads it: conjunctions
with `OR` between them, of which one has to hold. -/
structure Reads (p : Predicate) (keyword : String) (s : Statement) : Prop where
  sql_eq : s.sql = keyword ++ " " ++
    " OR ".intercalate
      (" AND ".intercalate ("1=1" :: (leading p).map Term.body) ::
        (others p).map conjunctionText)
  holds_iff (truth : Condition → Bool) : p.holds truth = true ↔
    (∀ t ∈ leading p, t.holds truth = true) ∨
      ∃ terms ∈ others p, ∀ t ∈ terms, t.holds truth = true

theorem reads_clause (keyword : String) (p : Predicate) :
    p.Reads keyword (p.clause keyword) :=
  ⟨sql_clause keyword p, fun _ => holds_eq_true_iff⟩

/-- Rows that meet none of the conditions are not selected. -/
def RequiresCondition (p : Predicate) : Prop :=
  ∀ truth : Condition → Bool,
    (∀ t ∈ p, ∀ c ∈ t.conditions, truth c = false) → p.holds truth = false

theorem requiresCondition_of_leading_ne_nil {p : Predicate}
    (h : leading p ≠ []) : p.RequiresCondition := by
  intro truth hfalse
  have hterm : ∀ t ∈ p, t.holds truth ≠ true := by
    intro t ht
    rw [Term.holds_eq_false (hfalse t ht)]
    exact Bool.false_ne_true
  have hparts := leading_append_flatten_others p
  rw [← Bool.not_eq_true, holds_eq_true_iff]
  rintro (hleading | ⟨terms, hterms, hall⟩)
  · obtain ⟨t, ht⟩ := List.exists_mem_of_ne_nil _ h
    have hp : t ∈ p := by
      rw [← hparts]
      exact List.mem_append_left _ ht
    exact hterm t hp (hleading t ht)
  · obtain ⟨t, ht⟩ := List.exists_mem_of_ne_nil _ (ne_nil_of_mem_others hterms)
    have hp : t ∈ p := by
      rw [← hparts]
      exact List.mem_append_right _ (List.mem_flatten_of_mem hterms ht)
    exact hterm t hp (hall t ht)

/-- Nothing narrows a predicate whose leading conjunction is empty. -/
theorem holds_of_leading_eq_nil {p : Predicate} (h : leading p = [])
    (truth : Condition → Bool) : p.holds truth = true := by
  rw [holds_eq_true_iff, h]
  exact .inl fun t ht => absurd ht List.not_mem_nil

end Predicate

/-! ## Criteria -/

/-- A criterion is an alternative to what stands before it: a filter that is
joined by `OR`. -/
def Criterion.IsAlternative (c : Criterion) : Prop :=
  ∃ f, c = .filter f ∧ f.operator = .orLike

theorem Operator.connective_eq_or_iff {operator : Operator} :
    operator.connective = .or ↔ operator = .orLike := by
  cases operator with
  | _ => decide

theorem Criterion.Yields.connective_eq_or_iff {c : Criterion} {t : Term}
    (h : c.Yields t) : t.connective = .or ↔ c.IsAlternative := by
  rw [h.connective_eq]
  cases c with
  | filter f =>
      simp [IsAlternative, Operator.connective_eq_or_iff]
  | anyOf group =>
      simp [IsAlternative]

/-- Unless the first criterion that is not skipped is an alternative, a clause
selects only rows that meet one of its conditions.  If it is one, the clause
selects all rows. -/
theorem whereClause_requires_condition {wl : Whitelist} {fs : Filters}
    {s : Statement} {first : Criterion} {rest : List Criterion}
    (hs : (whereClause wl fs).outcome = .ok s)
    (hrendered : fs.rendered = first :: rest) :
    ∃ p : Predicate, (Predicate.ofFilters wl fs).outcome = .ok p ∧
      s = p.clause "WHERE" ∧ p.Reads "WHERE" s ∧
      (¬first.IsAlternative → p.RequiresCondition) ∧
      (first.IsAlternative → (∃ rest, s.sql = "WHERE 1=1 OR " ++ rest) ∧
        ∀ truth, p.holds truth = true) := by
  obtain ⟨p, hp, rfl⟩ := whereClause_eq_ok hs
  have hyields := Predicate.forall₂_yields_of_ofFilters hp
  rw [hrendered, List.forall₂_cons_left_iff] at hyields
  obtain ⟨t, terms, hfirst, -, rfl⟩ := hyields
  have hleading : Predicate.leading (t :: terms) = [] ↔ first.IsAlternative :=
    Predicate.leading_cons_eq_nil_iff.trans hfirst.connective_eq_or_iff
  refine ⟨t :: terms, hp, rfl, Predicate.reads_clause _ _, ?_, ?_⟩
  · intro hnot
    apply Predicate.requiresCondition_of_leading_ne_nil
    exact fun hnil => hnot (hleading.mp hnil)
  · intro halternative
    have hnil := hleading.mpr halternative
    exact ⟨⟨_, Predicate.sql_clause_of_leading_eq_nil hnil
      (List.cons_ne_nil t terms)⟩, Predicate.holds_of_leading_eq_nil hnil⟩

/-- An alternative that is skipped does not count as the first criterion.  One
that is not skipped does, and is written right after `1=1`. -/
theorem whereClause_requires_condition_after_skipped :
    let wl := Whitelist.ofLists [] ["name"]
    let ann : Filter := ⟨"name", .like, .single (.text "ann")⟩
    let bob : Filter := ⟨"name", .orLike, .single (.text "bob")⟩
    let fs := Filters.ofList [⟨"name", .orLike, .absent⟩, ann, bob]
    let gs := Filters.ofList [⟨"name", .equal, .absent⟩, bob, ann]
    fs.rendered = [.filter ann, .filter bob] ∧
      ¬(Criterion.filter ann).IsAlternative ∧
      (∃ s p, (whereClause wl fs).outcome = .ok s ∧
        (Predicate.ofFilters wl fs).outcome = .ok p ∧
        s = p.clause "WHERE" ∧ p.Reads "WHERE" s ∧ p.RequiresCondition) ∧
      gs.rendered = [.filter bob, .filter ann] ∧
      (Criterion.filter bob).IsAlternative ∧
      ∃ s p, (whereClause wl gs).outcome = .ok s ∧
        s.sql = "WHERE 1=1 OR name LIKE ? AND name LIKE ?" ∧
        (Predicate.ofFilters wl gs).outcome = .ok p ∧
        (∃ rest, s.sql = "WHERE 1=1 OR " ++ rest) ∧
        ∀ truth, p.holds truth = true := by
  intro wl ann bob fs gs
  have hann : ¬(Criterion.filter ann).IsAlternative := by
    rintro ⟨f, hf, hoperator⟩
    cases hf
    cases hoperator
  have hbob : (Criterion.filter bob).IsAlternative := ⟨_, rfl, rfl⟩
  have hfs : fs.rendered = [.filter ann, .filter bob] := rfl
  have hgs : gs.rendered = [.filter bob, .filter ann] := rfl
  have hclause : ∃ s, (whereClause wl fs).outcome = .ok s := ⟨_, rfl⟩
  have htext : ∃ s, (whereClause wl gs).outcome = .ok s ∧
      s.sql = "WHERE 1=1 OR name LIKE ? AND name LIKE ?" := ⟨_, rfl, rfl⟩
  obtain ⟨s, hs⟩ := hclause
  obtain ⟨s', hs', hsql⟩ := htext
  obtain ⟨p, hp, hp_clause, hreads, hrequires, -⟩ :=
    whereClause_requires_condition hs hfs
  obtain ⟨p', hp', -, -, -, hselects⟩ := whereClause_requires_condition hs' hgs
  exact ⟨hfs, hann, ⟨s, p, hs, hp, hp_clause, hreads, hrequires hann⟩, hgs,
    hbob, s', p', hs', hsql, hp', hselects hbob⟩

/-- A single alternative is written after `1=1` and selects the rows that do
not match it too. -/
theorem not_whereClause_requires_condition :
    ¬∀ (wl : Whitelist) (fs : Filters) (s : Statement),
      (whereClause wl fs).outcome = .ok s → fs.rendered ≠ [] →
        ∃ p : Predicate, (Predicate.ofFilters wl fs).outcome = .ok p ∧
          s = p.clause "WHERE" ∧ p.RequiresCondition := by
  intro h
  let wl := Whitelist.ofLists [] ["name"]
  let fs := Filters.ofList [⟨"name", .orLike, .single (.text "ann")⟩]
  have hrendered : fs.rendered ≠ [] := List.cons_ne_nil _ _
  obtain ⟨p, hp, -, hrequires⟩ := h wl fs _ rfl hrendered
  cases hp
  have hfalse := hrequires (fun _ => false) fun _ _ _ _ => rfl
  cases hfalse

end GuardedSql
