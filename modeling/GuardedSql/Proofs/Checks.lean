import GuardedSql.Proofs.Outcome

/-!
# Checks in order

A computation that makes its checks one after the other and stops at the first
one that fails is decided by the list of these checks: it succeeds when all of
them hold, and otherwise its error is that of the first which does not.  The
list of a sequence is the list of its first step followed by that of its second
step, and the list of a traversal joins the lists of the items.
-/

namespace GuardedSql

/-- What a computation demands of its input, and the error that it ends with
when the demand is not met. -/
structure Check (ε : Type) where
  demand : Prop
  error : ε

/-- The first check of a list whose demand is not met has the given error. -/
def FirstViolated {ε : Type} : List (Check ε) → ε → Prop
  | [], _ => False
  | check :: rest, e =>
    (¬check.demand ∧ check.error = e) ∨ (check.demand ∧ FirstViolated rest e)

/-- An outcome is a result when all checks of a list hold, and otherwise the
error of the first one that does not. -/
inductive DecidedBy {ε α : Type} (x : Except ε α)
    (checks : List (Check ε)) : Prop
  | accepted (a : α) (hx : x = .ok a) (h : ∀ check ∈ checks, check.demand)
  | refused (e : ε) (hx : x = .error e) (h : FirstViolated checks e)

section

variable {ε α β : Type} {checks checks' : List (Check ε)}

theorem FirstViolated.not_all {e : ε} (h : FirstViolated checks e) :
    ¬∀ check ∈ checks, check.demand := by
  intro hall
  induction checks with
  | nil => exact h
  | cons check rest ih =>
      have hfirst := hall check List.mem_cons_self
      rcases h with ⟨hnot, -⟩ | ⟨-, hrest⟩
      · exact hnot hfirst
      · exact ih hrest fun c hc => hall c (List.mem_cons_of_mem check hc)

theorem FirstViolated.unique {e e' : ε} (h : FirstViolated checks e)
    (h' : FirstViolated checks e') : e = e' := by
  induction checks with
  | nil => exact h.elim
  | cons check rest ih =>
      rcases h with ⟨hnot, rfl⟩ | ⟨hdemand, hrest⟩
      · rcases h' with ⟨-, rfl⟩ | ⟨hdemand', -⟩
        · rfl
        · exact absurd hdemand' hnot
      · rcases h' with ⟨hnot', -⟩ | ⟨-, hrest'⟩
        · exact absurd hdemand hnot'
        · exact ih hrest hrest'

theorem FirstViolated.append_left {e : ε} (h : FirstViolated checks e) :
    FirstViolated (checks ++ checks') e := by
  induction checks with
  | nil => exact h.elim
  | cons check rest ih =>
      rcases h with hviolated | ⟨hdemand, hrest⟩
      · exact .inl hviolated
      · exact .inr ⟨hdemand, ih hrest⟩

theorem FirstViolated.append_right {e : ε}
    (hall : ∀ check ∈ checks, check.demand) (h : FirstViolated checks' e) :
    FirstViolated (checks ++ checks') e := by
  induction checks with
  | nil => exact h
  | cons check rest ih =>
      have hfirst := hall check List.mem_cons_self
      exact .inr ⟨hfirst, ih fun c hc =>
        hall c (List.mem_cons_of_mem check hc)⟩

/-- All demands are met when no check is the first whose demand is not. -/
theorem forall_demand_iff :
    (∀ check ∈ checks, check.demand) ↔ ∀ e, ¬FirstViolated checks e := by
  constructor
  · intro hall e h
    exact h.not_all hall
  · intro h
    induction checks with
    | nil => exact fun check hcheck => absurd hcheck List.not_mem_nil
    | cons check rest ih =>
        have hfirst : check.demand := by
          by_contra hnot
          exact h check.error (.inl ⟨hnot, rfl⟩)
        rw [List.forall_mem_cons]
        exact ⟨hfirst, ih fun e hrest => h e (.inr ⟨hfirst, hrest⟩)⟩

theorem firstViolated_append_iff {e : ε} :
    FirstViolated (checks ++ checks') e ↔
      FirstViolated checks e ∨
        ((∀ check ∈ checks, check.demand) ∧ FirstViolated checks' e) := by
  induction checks with
  | nil => simp [FirstViolated]
  | cons check rest ih =>
      rw [List.cons_append, FirstViolated, FirstViolated, ih,
        List.forall_mem_cons]
      by_cases hdemand : check.demand
      · simp [hdemand]
      · simp [hdemand]

/-- Checks whose demands are met decide nothing, wherever they stand. -/
theorem firstViolated_between_iff {before after : List (Check ε)} {e : ε}
    (hbefore : ∀ check ∈ before, check.demand)
    (hafter : ∀ check ∈ after, check.demand) :
    FirstViolated (before ++ (checks ++ after)) e ↔
      FirstViolated checks e := by
  have hnotBefore := forall_demand_iff.mp hbefore e
  have hnotAfter := forall_demand_iff.mp hafter e
  rw [firstViolated_append_iff, firstViolated_append_iff,
    or_iff_right hnotBefore, and_iff_right hbefore]
  exact or_iff_left fun h => hnotAfter h.2

/-- Of the checks that are made for each item in turn, the first that fails is
that of the first item whose demand is not met. -/
theorem firstViolated_map_iff {check : α → Check ε} {meets : α → Bool}
    (hmeets : ∀ x, meets x = true ↔ (check x).demand) {xs : List α} {e : ε} :
    FirstViolated (xs.map check) e ↔
      ∃ x, xs.find? (fun x => !meets x) = some x ∧ (check x).error = e := by
  induction xs with
  | nil => simp [FirstViolated]
  | cons x rest ih =>
      rw [List.map_cons, FirstViolated, List.find?_cons, ih, ← hmeets]
      by_cases hx : meets x = true
      · simp [hx]
      · simp [hx]

/-- A second check for each item, if it is always met, decides nothing. -/
theorem firstViolated_flatMap_pair_iff {first second : α → Check ε}
    {xs : List α} (hsecond : ∀ x ∈ xs, (second x).demand) {e : ε} :
    FirstViolated (xs.flatMap fun x => [first x, second x]) e ↔
      FirstViolated (xs.map first) e := by
  induction xs with
  | nil => exact Iff.rfl
  | cons x rest ih =>
      have hx := hsecond x List.mem_cons_self
      have hrest := ih fun y hy => hsecond y (List.mem_cons_of_mem x hy)
      simp [FirstViolated, hx, hrest]

namespace DecidedBy

theorem isOk_iff {x : Except ε α} (h : DecidedBy x checks) :
    (∃ a, x = .ok a) ↔ ∀ check ∈ checks, check.demand := by
  cases h with
  | accepted a hx hall =>
      constructor
      · intro _
        exact hall
      · intro _
        exact ⟨a, hx⟩
  | refused e hx hviolated =>
      constructor
      · rintro ⟨a, ha⟩
        rw [hx] at ha
        cases ha
      · intro hall
        exact absurd hall hviolated.not_all

theorem eq_error_iff {x : Except ε α} (h : DecidedBy x checks) {e : ε} :
    x = .error e ↔ FirstViolated checks e := by
  cases h with
  | accepted a hx hall =>
      constructor
      · intro he
        rw [hx] at he
        cases he
      · intro hviolated
        exact absurd hall hviolated.not_all
  | refused e' hx hviolated =>
      rw [hx]
      constructor
      · intro he
        cases he
        exact hviolated
      · intro hviolated'
        rw [hviolated.unique hviolated']

/-- Further checks, wherever they stand, are demands in addition. -/
theorem isOk_between_iff {before after : List (Check ε)} {x : Except ε α}
    {y : Except ε β} (hx : DecidedBy x (before ++ (checks ++ after)))
    (hy : DecidedBy y (before ++ after)) :
    (∃ a, x = .ok a) ↔
      (∃ b, y = .ok b) ∧ ∀ check ∈ checks, check.demand := by
  rw [hx.isOk_iff, hy.isOk_iff, List.forall_mem_append, List.forall_mem_append,
    List.forall_mem_append, and_left_comm, and_comm]

/-- When nothing else is at fault, the error is that of the further checks. -/
theorem eq_error_between_iff {before after : List (Check ε)} {x : Except ε α}
    {y : Except ε β} (hx : DecidedBy x (before ++ (checks ++ after)))
    (hy : DecidedBy y (before ++ after)) (hok : ∃ b, y = .ok b) {e : ε} :
    x = .error e ↔ FirstViolated checks e := by
  obtain ⟨hbefore, hafter⟩ :=
    List.forall_mem_append.mp (hy.isOk_iff.mp hok)
  rw [hx.eq_error_iff, firstViolated_between_iff hbefore hafter]

/-- An outcome that can only be one result is this result exactly when all
checks hold. -/
theorem eq_ok_iff {x : Except ε α} (h : DecidedBy x checks) {a b : α}
    (hresult : ∀ a, x = .ok a → a = b) :
    x = .ok a ↔ (∀ check ∈ checks, check.demand) ∧ a = b := by
  rw [← h.isOk_iff]
  constructor
  · intro ha
    exact ⟨⟨a, ha⟩, hresult a ha⟩
  · rintro ⟨⟨a', ha'⟩, rfl⟩
    rw [ha', hresult a' ha']

/-- Only the first check that fails decides an outcome. -/
theorem congr {x : Except ε α} (h : DecidedBy x checks)
    (hchecks : ∀ e, FirstViolated checks e ↔ FirstViolated checks' e) :
    DecidedBy x checks' := by
  rcases h with ⟨a, hx, hall⟩ | ⟨e, hx, hviolated⟩
  · refine .accepted a hx ?_
    rw [forall_demand_iff] at hall ⊢
    exact fun e he => hall e ((hchecks e).mpr he)
  · exact .refused e hx ((hchecks e).mp hviolated)

/-- Outcomes that are decided by the same checks are both results or the same
error. -/
theorem agree {x : Except ε α} {y : Except ε β} (hx : DecidedBy x checks)
    (hy : DecidedBy y checks) : Agree (fun _ _ => True) x y := by
  cases hx with
  | accepted a hx hall =>
      obtain ⟨b, hb⟩ := hy.isOk_iff.mpr hall
      rw [hx, hb]
      exact .ok trivial
  | refused e hx hviolated =>
      rw [hx, hy.eq_error_iff.mpr hviolated]
      exact .error e

theorem pure (a : α) : DecidedBy (.ok a : Except ε α) [] :=
  .accepted a rfl fun _ hcheck => absurd hcheck List.not_mem_nil

theorem bind {x : Audited ε α} {f : α → Audited ε β}
    (hx : DecidedBy x.outcome checks)
    (hf : ∀ a, x.outcome = .ok a → DecidedBy (f a).outcome checks') :
    DecidedBy (x >>= f).outcome (checks ++ checks') := by
  rw [Audited.outcome_bind]
  cases hx with
  | refused e hx hviolated =>
      exact .refused e (by rw [hx]; rfl) hviolated.append_left
  | accepted a hx hall =>
      rw [hx]
      change DecidedBy (f a).outcome (checks ++ checks')
      cases hf a hx with
      | refused e hfa hviolated =>
          exact .refused e hfa (.append_right hall hviolated)
      | accepted b hfa hall' =>
          refine .accepted b hfa ?_
          intro check hcheck
          rcases List.mem_append.mp hcheck with hleft | hright
          · exact hall check hleft
          · exact hall' check hright

/-- An outcome that is a result exactly when one demand is met. -/
theorem of_check {x : Except ε α} {check : Check ε}
    (hmet : check.demand → ∃ a, x = .ok a)
    (hunmet : ¬check.demand → x = .error check.error) :
    DecidedBy x [check] := by
  by_cases hdemand : check.demand
  · obtain ⟨a, ha⟩ := hmet hdemand
    refine .accepted a ha ?_
    intro c hc
    rw [List.mem_singleton.mp hc]
    exact hdemand
  · exact .refused check.error (hunmet hdemand) (.inl ⟨hdemand, rfl⟩)

/-- A computation that fails right away unless a demand is met makes this check
before all others. -/
theorem ite_fail {p demand : Prop} [Decidable p] {e : ε} {x : Audited ε α}
    (hp : p ↔ ¬demand) (hx : DecidedBy x.outcome checks) :
    DecidedBy (if p then Audited.fail e else x).outcome
      (⟨demand, e⟩ :: checks) := by
  by_cases h : p
  · rw [if_pos h]
    exact .refused e rfl (.inl ⟨hp.mp h, rfl⟩)
  · have hdemand : demand := not_not.mp fun hnot => h (hp.mpr hnot)
    rw [if_neg h]
    rcases hx with ⟨a, ha, hall⟩ | ⟨e', he', hviolated⟩
    · exact .accepted a ha (List.forall_mem_cons.mpr ⟨hdemand, hall⟩)
    · exact .refused e' he' (.inr ⟨hdemand, hviolated⟩)

/-- A computation makes the same checks when what follows it always has a
result. -/
theorem bind_of_isOk {x : Audited ε α} {f : α → Audited ε β}
    (hx : DecidedBy x.outcome checks)
    (hf : ∀ a, ∃ b, (f a).outcome = .ok b) :
    DecidedBy (x >>= f).outcome checks := by
  rw [← List.append_nil checks]
  refine bind hx fun a _ => ?_
  obtain ⟨b, hb⟩ := hf a
  rw [hb]
  exact pure b

/-- A computation whose result is only transformed makes the same checks. -/
theorem bind_pure {x : Audited ε α} (g : α → β)
    (hx : DecidedBy x.outcome checks) :
    DecidedBy (x >>= fun a => Pure.pure (g a)).outcome checks :=
  hx.bind_of_isOk fun a => ⟨g a, rfl⟩

theorem mapM {f : α → Audited ε β} {g : α → List (Check ε)} {xs : List α}
    (h : ∀ x ∈ xs, DecidedBy (f x).outcome (g x)) :
    DecidedBy (xs.mapM f).outcome (xs.flatMap g) := by
  induction xs with
  | nil => exact pure []
  | cons x rest ih =>
      have hfirst := h x List.mem_cons_self
      have hrest := ih fun z hz => h z (List.mem_cons_of_mem x hz)
      rw [List.mapM_cons, List.flatMap_cons]
      refine hfirst.bind fun y _ => ?_
      exact hrest.bind_pure _

theorem forM {f : α → Audited ε PUnit} {g : α → List (Check ε)} {xs : List α}
    (h : ∀ x ∈ xs, DecidedBy (f x).outcome (g x)) :
    DecidedBy (xs.forM f).outcome (xs.flatMap g) := by
  induction xs with
  | nil => exact pure PUnit.unit
  | cons x rest ih =>
      have hfirst := h x List.mem_cons_self
      have hrest := ih fun z hz => h z (List.mem_cons_of_mem x hz)
      rw [List.flatMap_cons]
      change DecidedBy (f x >>= fun _ => rest.forM f).outcome _
      exact hfirst.bind fun _ _ => hrest

end DecidedBy

end

end GuardedSql
