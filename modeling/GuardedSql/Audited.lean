import GuardedSql.Event

/-!
# Audited computations

An audited computation yields a result or an error, and in either case the
events reported on the way.  After an error nothing more happens.
-/

namespace GuardedSql

/-- A result or an error together with the events reported on the way. -/
@[ext]
structure Audited (ε α : Type) where
  trail : List Event
  outcome : Except ε α

namespace Audited

variable {ε α β : Type}

/-- Yields a result and reports nothing. -/
protected def pure (a : α) : Audited ε α :=
  ⟨[], .ok a⟩

/-- Runs a computation on the result of another one, if that has a result. -/
protected def bind (x : Audited ε α) (f : α → Audited ε β) : Audited ε β :=
  match x.outcome with
  | .ok a => ⟨x.trail ++ (f a).trail, (f a).outcome⟩
  | .error e => ⟨x.trail, .error e⟩

instance : Monad (Audited ε) where
  pure := Audited.pure
  bind := Audited.bind

def report (event : Event) : Audited ε Unit :=
  ⟨[event], .ok ()⟩

def fail (e : ε) : Audited ε α :=
  ⟨[], .error e⟩

/-- The outcome of a computation that reports nothing. -/
def ofExcept (outcome : Except ε α) : Audited ε α :=
  ⟨[], outcome⟩

@[simp]
theorem trail_pure (a : α) : (pure a : Audited ε α).trail = [] := rfl

@[simp]
theorem outcome_pure (a : α) : (pure a : Audited ε α).outcome = .ok a := rfl

@[simp]
theorem bind_ok (trail : List Event) (a : α) (f : α → Audited ε β) :
    ((⟨trail, .ok a⟩ : Audited ε α) >>= f) =
      ⟨trail ++ (f a).trail, (f a).outcome⟩ := rfl

@[simp]
theorem bind_error (trail : List Event) (e : ε) (f : α → Audited ε β) :
    ((⟨trail, .error e⟩ : Audited ε α) >>= f) = ⟨trail, .error e⟩ := rfl

theorem outcome_bind (x : Audited ε α) (f : α → Audited ε β) :
    (x >>= f).outcome = x.outcome >>= fun a => (f a).outcome := by
  rcases x with ⟨trail, e | a⟩
  · rfl
  · rfl

/-! ## The laws of a monad -/

protected theorem id_map (x : Audited ε α) : id <$> x = x := by
  rcases x with ⟨trail, e | a⟩
  · rfl
  · show (⟨trail ++ [], .ok a⟩ : Audited ε α) = _
    rw [List.append_nil]

protected theorem pure_bind (a : α) (f : α → Audited ε β) :
    pure a >>= f = f a := by
  show (⟨[] ++ (f a).trail, (f a).outcome⟩ : Audited ε β) = f a
  rw [List.nil_append]

protected theorem bind_assoc {γ : Type} (x : Audited ε α)
    (f : α → Audited ε β) (g : β → Audited ε γ) :
    x >>= f >>= g = x >>= fun a => f a >>= g := by
  rcases x with ⟨trail, e | a⟩
  · rfl
  · rw [bind_ok, bind_ok]
    rcases h : f a with ⟨trail', e | b⟩
    · simp
    · simp

instance : LawfulMonad (Audited ε) :=
  LawfulMonad.mk' (Audited ε) Audited.id_map Audited.pure_bind Audited.bind_assoc

end Audited

end GuardedSql
