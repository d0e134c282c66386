import GuardedSql.PagedTable.Plan
import GuardedSql.PagedTable.Total

/-!
# Sessions with a source of rows

A session runs statements on a source of rows, one after the other, and the
first failure ends it.  What a source answers may depend on everything that it
was asked before.
-/

namespace GuardedSql.PagedTable

/-- A source of rows: its answer to a statement, given the statements that it
was asked before. -/
abbrev Source (ε : Type) :=
  List Statement → Statement → Except ε (List Row)

/-- The source that gives the answers of a list, one after the other, and no
rows when they run out. -/
def Source.ofAnswers {ε : Type} (answers : List (Except ε (List Row))) :
    Source ε :=
  fun asked _ => answers[asked.length]?.getD (.ok [])

/-- The reasons for which a session fails: a statement is refused, or the source
fails. -/
inductive SessionError (ε : Type) where
  | build (e : BuildError)
  | source (e : ε)

/-- The wording of an error, given the wording of the errors of the source. -/
def SessionError.message {ε : Type} (describe : ε → String) :
    SessionError ε → String
  | build e => e.message
  | source e => "datatable row source failed: " ++ describe e

/-- What came of a session: the statements that the source was asked, the events
that were reported, and the result or the error. -/
structure Run (ε α : Type) where
  calls : List Statement
  trail : List Event
  outcome : Except (SessionError ε) α

/-- A computation that asks a source, given the statements that it was asked
before. -/
def Session (ε α : Type) : Type :=
  List Statement → Run ε α

namespace Session

variable {ε α β : Type}

protected def pure (a : α) : Session ε α :=
  fun _ => ⟨[], [], .ok a⟩

/-- Runs a session on the result of another one, if that has a result. -/
protected def bind (x : Session ε α) (f : α → Session ε β) : Session ε β :=
  fun asked =>
    let first := x asked
    match first.outcome with
    | .ok a =>
      let second := f a (asked ++ first.calls)
      ⟨first.calls ++ second.calls, first.trail ++ second.trail, second.outcome⟩
    | .error e => ⟨first.calls, first.trail, .error e⟩

instance : Monad (Session ε) where
  pure := Session.pure
  bind := Session.bind

def report (event : Event) : Session ε Unit :=
  fun _ => ⟨[], [event], .ok ()⟩

/-- Runs a computation that asks no source. -/
def ofAudited (x : Audited BuildError α) : Session ε α :=
  fun _ => ⟨[], x.trail, x.outcome.mapError .build⟩

/-- Asks the source for the rows of a statement.  The call is reported before it
is made. -/
def ask (source : Source ε) (s : Statement) : Session ε (List Row) :=
  fun asked =>
    ⟨[s], [.executing s.sql s.args.length], (source asked s).mapError .source⟩

theorem bind_of_ok {x : Session ε α} {asked calls : List Statement}
    {trail : List Event} {a : α} (h : x asked = ⟨calls, trail, .ok a⟩)
    (f : α → Session ε β) :
    (x >>= f) asked =
      ⟨calls ++ (f a (asked ++ calls)).calls,
        trail ++ (f a (asked ++ calls)).trail,
        (f a (asked ++ calls)).outcome⟩ := by
  show Session.bind x f asked = _
  simp [Session.bind, h]

theorem bind_of_error {x : Session ε α} {asked calls : List Statement}
    {trail : List Event} {e : SessionError ε}
    (h : x asked = ⟨calls, trail, .error e⟩) (f : α → Session ε β) :
    (x >>= f) asked = ⟨calls, trail, .error e⟩ := by
  show Session.bind x f asked = _
  simp [Session.bind, h]

end Session

end GuardedSql.PagedTable
