import GuardedSql.Whitelist
import Mathlib.Data.List.Forall2

/-!
# Outcomes of audited computations

Most properties of statement building speak of results and errors and not of
the events reported on the way.  Taking the outcome commutes with sequencing
and with the traversal of a list.  `Agree` compares two outcomes: both are
related results, or both are the same error.
-/

namespace GuardedSql

namespace Audited

variable {ε α β : Type}

@[simp]
theorem outcome_ofExcept (x : Except ε α) : (ofExcept x).outcome = x := rfl

/-- A sequence of two computations succeeds when both of them do. -/
theorem outcome_bind_eq_ok_iff {x : Audited ε α} {f : α → Audited ε β} {b : β} :
    (x >>= f).outcome = .ok b ↔
      ∃ a, x.outcome = .ok a ∧ (f a).outcome = .ok b := by
  rw [outcome_bind]
  cases h : x.outcome with
  | error e =>
      constructor
      · intro hb
        cases hb
      · rintro ⟨a, ha, -⟩
        cases ha
  | ok a =>
      constructor
      · intro hb
        exact ⟨a, rfl, hb⟩
      · rintro ⟨a', ha, hb⟩
        cases ha
        exact hb

/-- A computation whose result is only transformed succeeds when it does. -/
theorem outcome_bind_pure_eq_ok_iff {x : Audited ε α} {g : α → β} {b : β} :
    (x >>= fun a => pure (g a)).outcome = .ok b ↔
      ∃ a, x.outcome = .ok a ∧ g a = b := by
  rw [outcome_bind_eq_ok_iff]
  simp only [outcome_pure, Except.ok.injEq]

/-- A traversal succeeds when every step does, and its results are those of
the steps. -/
theorem outcome_mapM_eq_ok_iff {f : α → Audited ε β} {xs : List α} {ys : List β} :
    (xs.mapM f).outcome = .ok ys ↔
      List.Forall₂ (fun x y => (f x).outcome = .ok y) xs ys := by
  induction xs generalizing ys with
  | nil =>
      rw [List.mapM_nil, outcome_pure, List.forall₂_nil_left_iff]
      constructor
      · intro h
        cases h
        rfl
      · rintro rfl
        rfl
  | cons x xs ih =>
      rw [List.mapM_cons, outcome_bind_eq_ok_iff, List.forall₂_cons_left_iff]
      simp only [outcome_bind_pure_eq_ok_iff, ih]
      constructor
      · rintro ⟨y, hy, zs, hzs, rfl⟩
        exact ⟨y, zs, hy, hzs, rfl⟩
      · rintro ⟨y, zs, hy, hzs, rfl⟩
        exact ⟨y, hy, zs, hzs, rfl⟩

end Audited

namespace Whitelist

/-- A table is refused by name unless it is an entry. -/
theorem outcome_checkTable (wl : Whitelist) (table : String) :
    (wl.checkTable table).outcome =
      if wl.hasTable table then .ok () else .error (.tableNotAllowed table) := by
  unfold checkTable
  split
  · rfl
  · rfl

/-- A column is refused by name unless it is allowed for its use. -/
theorem outcome_checkColumn (wl : Whitelist) (use : ColumnUse) (column : String) :
    (wl.checkColumn use column).outcome =
      if wl.allows use column then .ok () else .error (.columnNotAllowed column) := by
  unfold checkColumn
  split
  · rfl
  · rfl

theorem checkColumn_eq_ok_iff {wl : Whitelist} {use : ColumnUse}
    {column : String} :
    (wl.checkColumn use column).outcome = .ok () ↔
      wl.allows use column = true := by
  rw [outcome_checkColumn]
  by_cases h : wl.allows use column = true
  · simp [h]
  · simp [h]

end Whitelist

/-! ## Agreement of two outcomes -/

/-- Both outcomes are results that a relation holds of, or both are the same
error. -/
inductive Agree {ε α β : Type} (R : α → β → Prop) :
    Except ε α → Except ε β → Prop
  | ok {a : α} {b : β} (h : R a b) : Agree R (.ok a) (.ok b)
  | error (e : ε) : Agree R (.error e) (.error e)

namespace Agree

variable {ε α β γ δ : Type} {R : α → β → Prop} {S : γ → δ → Prop}

/-- Every outcome agrees with itself. -/
theorem refl {R : α → α → Prop} (hR : ∀ a, R a a) (x : Except ε α) :
    Agree R x x := by
  cases x with
  | error e => exact .error e
  | ok a => exact .ok (hR a)

/-- Two sequences agree when their first steps do and their second steps agree
on related results. -/
theorem bind {x : Audited ε α} {y : Audited ε β} {f : α → Audited ε γ}
    {g : β → Audited ε δ} (h : Agree R x.outcome y.outcome)
    (hfg : ∀ a b, R a b → Agree S (f a).outcome (g b).outcome) :
    Agree S (x >>= f).outcome (y >>= g).outcome := by
  rw [Audited.outcome_bind, Audited.outcome_bind]
  generalize x.outcome = x' at h
  generalize y.outcome = y' at h
  cases h with
  | ok hab => exact hfg _ _ hab
  | error e => exact .error e

/-- Two sequences with the same first step agree when their second steps do. -/
theorem bind_same (x : Audited ε α) {f : α → Audited ε γ} {g : α → Audited ε δ}
    (hfg : ∀ a, Agree S (f a).outcome (g a).outcome) :
    Agree S (x >>= f).outcome (x >>= g).outcome :=
  bind (refl (fun _ => rfl) x.outcome) fun a _ hab => hab ▸ hfg a

/-- Two traversals agree when their steps agree on related items. -/
theorem mapM {P : γ → δ → Prop} {f : γ → Audited ε α} {g : δ → Audited ε β}
    {xs : List γ} {ys : List δ} (h : List.Forall₂ P xs ys)
    (hfg : ∀ x y, P x y → Agree R (f x).outcome (g y).outcome) :
    Agree (List.Forall₂ R) (xs.mapM f).outcome (ys.mapM g).outcome := by
  induction h with
  | nil => exact .ok .nil
  | cons hxy _ ih =>
      rw [List.mapM_cons, List.mapM_cons]
      refine bind (hfg _ _ hxy) fun a b hab => ?_
      exact bind ih fun as bs habs => .ok (.cons hab habs)

end Agree

end GuardedSql
