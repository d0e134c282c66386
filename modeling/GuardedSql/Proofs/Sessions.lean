import GuardedSql.PagedTable.Fetch

/-!
# What a session asks

A session that follows a script asks its source for the statements of the
script, in order and each of them once, until one of them fails.  Fetching a
page follows the script of its plan.  A plan that is refused is the script of no
session, and nothing is asked.
-/

namespace GuardedSql.PagedTable

variable {ε α β : Type}

/-! ## Steps of a session -/

namespace Session

/-- A computation that is refused before anything is asked. -/
theorem ofAudited_bind_of_error {x : Audited BuildError α} {e : BuildError}
    (h : x.outcome = .error e) (f : α → Session ε β) (asked : List Statement) :
    (ofAudited x >>= f) asked = ⟨[], x.trail, .error (.build e)⟩ := by
  apply bind_of_error
  rw [ofAudited, h]
  rfl

/-- A computation that asks no source leaves the calls to what follows it. -/
theorem ofAudited_bind_of_ok {x : Audited BuildError α} {a : α}
    (h : x.outcome = .ok a) (f : α → Session ε β) (asked : List Statement) :
    (ofAudited x >>= f) asked =
      ⟨(f a asked).calls, x.trail ++ (f a asked).trail,
        (f a asked).outcome⟩ := by
  have hx : (ofAudited x : Session ε α) asked = ⟨[], x.trail, .ok a⟩ := by
    rw [ofAudited, h]
    rfl
  rw [bind_of_ok hx, List.append_nil, List.nil_append]

theorem ask_bind_of_error {source : Source ε} {asked : List Statement}
    {s : Statement} {e : ε} (h : source asked s = .error e)
    (f : List Row → Session ε β) :
    (ask source s >>= f) asked =
      ⟨[s], [.executing s.sql s.args.length], .error (.source e)⟩ := by
  apply bind_of_error
  rw [ask, h]
  rfl

theorem ask_bind_of_ok {source : Source ε} {asked : List Statement}
    {s : Statement} {rows : List Row} (h : source asked s = .ok rows)
    (f : List Row → Session ε β) :
    (ask source s >>= f) asked =
      ⟨s :: (f rows (asked ++ [s])).calls,
        .executing s.sql s.args.length :: (f rows (asked ++ [s])).trail,
        (f rows (asked ++ [s])).outcome⟩ := by
  have hask : ask source s asked =
      ⟨[s], [.executing s.sql s.args.length], .ok rows⟩ := by
    rw [ask, h]
    rfl
  exact bind_of_ok hask f

end Session

/-! ## Scripts -/

/-- The answer to the statement at a place of a list.  It is asked after some
other statements and after those that stand before it in the list. -/
def Source.answer? (source : Source ε) (asked statements : List Statement)
    (i : Nat) : Option (Except ε (List Row)) :=
  statements[i]?.map (source (asked ++ statements.take i))

theorem Source.answer?_cons_succ (source : Source ε) (asked : List Statement)
    (s : Statement) (rest : List Statement) (i : Nat) :
    source.answer? asked (s :: rest) (i + 1) =
      source.answer? (asked ++ [s]) rest i := by
  rw [answer?, answer?, List.getElem?_cons_succ, List.take_succ_cons,
    List.append_assoc, List.singleton_append]

/-- A run asks the statements of a script, after some other statements, until
one of them fails.  When none fails, the result is one that the answers
yield. -/
inductive Follows (source : Source ε) : List Statement → List Statement →
    (List (List Row) → α → Prop) → Run ε α → Prop
  | finished {asked : List Statement} {Yields : List (List Row) → α → Prop}
      {run : Run ε α} {a : α} (hcalls : run.calls = [])
      (houtcome : run.outcome = .ok a) (ha : Yields [] a) :
      Follows source asked [] Yields run
  | failed {asked rest : List Statement} {s : Statement}
      {Yields : List (List Row) → α → Prop} {run : Run ε α} {e : ε}
      (hanswer : source asked s = .error e) (hcalls : run.calls = [s])
      (houtcome : run.outcome = .error (.source e)) :
      Follows source asked (s :: rest) Yields run
  | answered {asked rest : List Statement} {s : Statement}
      {Yields : List (List Row) → α → Prop} {run tail : Run ε α}
      {rows : List Row} (hanswer : source asked s = .ok rows)
      (hcalls : run.calls = s :: tail.calls)
      (houtcome : run.outcome = tail.outcome)
      (htail : Follows source (asked ++ [s]) rest
        (fun answers => Yields (rows :: answers)) tail) :
      Follows source asked (s :: rest) Yields run

namespace Follows

variable {source : Source ε} {asked statements rest : List Statement}
  {Yields : List (List Row) → α → Prop}

/-- Only the calls and the outcome of a run count. -/
theorem of_eq {run run' : Run ε α}
    (h : Follows source asked statements Yields run)
    (hcalls : run'.calls = run.calls) (houtcome : run'.outcome = run.outcome) :
    Follows source asked statements Yields run' := by
  cases h with
  | finished hnone hok ha =>
      exact .finished (hcalls.trans hnone) (houtcome.trans hok) ha
  | failed hanswer hlast herror =>
      exact .failed hanswer (hcalls.trans hlast) (houtcome.trans herror)
  | answered hanswer hfirst hrest htail =>
      exact .answered hanswer (hcalls.trans hfirst) (houtcome.trans hrest) htail

/-- A computation that asks no source is no part of a script. -/
theorem ofAudited_bind {x : Audited BuildError β} {b : β}
    {f : β → Session ε α} (hx : x.outcome = .ok b)
    (h : Follows source asked statements Yields (f b asked)) :
    Follows source asked statements Yields
      ((Session.ofAudited x >>= f) asked) := by
  rw [Session.ofAudited_bind_of_ok hx]
  exact h.of_eq rfl rfl

/-- Asking the first statement of a script follows it when what comes after
each answer follows the rest. -/
theorem ask_bind {s : Statement} {f : List Row → Session ε α}
    (h : ∀ rows, Follows source (asked ++ [s]) rest
      (fun answers => Yields (rows :: answers)) (f rows (asked ++ [s]))) :
    Follows source asked (s :: rest) Yields
      ((Session.ask source s >>= f) asked) := by
  cases hanswer : source asked s with
  | error e =>
      rw [Session.ask_bind_of_error hanswer]
      exact .failed hanswer rfl rfl
  | ok rows =>
      rw [Session.ask_bind_of_ok hanswer]
      exact .answered hanswer rfl rfl (h rows)

/-- Either some statement fails after all before it were answered, and it is
the last one that is asked, or the whole script is asked and answered. -/
theorem failed_or_finished {run : Run ε α}
    (h : Follows source asked statements Yields run) :
    (∃ i e, source.answer? asked statements i = some (.error e) ∧
      (∀ j < i, ∃ rows,
        source.answer? asked statements j = some (.ok rows)) ∧
      run.calls = statements.take (i + 1) ∧
      run.outcome = .error (.source e)) ∨
    ∃ answers a,
      (∀ i, source.answer? asked statements i = answers[i]?.map .ok) ∧
      run.calls = statements ∧ run.outcome = .ok a ∧ Yields answers a := by
  induction h with
  | finished hcalls houtcome ha =>
      refine .inr ⟨[], _, ?_, hcalls, houtcome, ha⟩
      intro i
      rfl
  | failed hanswer hcalls houtcome =>
      refine .inl ⟨0, _, ?_, ?_, hcalls, houtcome⟩
      · rw [Source.answer?, List.take_zero, List.append_nil, ← hanswer]
        rfl
      · intro j hj
        exact absurd hj (Nat.not_lt_zero j)
  | @answered asked rest s Yields run tail rows hanswer hcalls houtcome _ ih =>
      have hfirst : source.answer? asked (s :: rest) 0 = some (.ok rows) := by
        rw [Source.answer?, List.take_zero, List.append_nil, ← hanswer]
        rfl
      rcases ih with ⟨i, e, hfails, hbefore, htail, herror⟩ |
        ⟨answers, a, hanswers, htail, hok, ha⟩
      · refine .inl ⟨i + 1, e, ?_, ?_, ?_, houtcome.trans herror⟩
        · rw [Source.answer?_cons_succ, hfails]
        · intro j hj
          cases j with
          | zero => exact ⟨rows, hfirst⟩
          | succ j =>
              rw [Source.answer?_cons_succ]
              exact hbefore j (Nat.lt_of_succ_lt_succ hj)
        · rw [hcalls, htail, List.take_succ_cons]
      · refine .inr ⟨rows :: answers, a, ?_, ?_, houtcome.trans hok, ha⟩
        · intro i
          cases i with
          | zero => exact hfirst
          | succ i =>
              rw [Source.answer?_cons_succ, hanswers, List.getElem?_cons_succ]
        · rw [hcalls, htail]

end Follows

/-! ## Fetching a page -/

def Plan.statements (p : Plan) : List Statement :=
  [p.total, p.filtered, p.data]

/-- The page that the answers to the statements of a plan make. -/
def Request.YieldsPage (r : Request) (answers : List (List Row)) (page : Page) :
    Prop :=
  ∃ all found rows, answers = [all, found, rows] ∧
    page = ⟨r.draw, totalOf all, totalOf found, rows⟩

variable {d : PagedTable} {source : Source ε} {r : Request} {plan : Plan}

theorem fetch_of_plan_eq_error {e : BuildError}
    (h : (d.plan r).outcome = .error e) :
    (d.fetch source r).calls = [] ∧
      (d.fetch source r).outcome = .error (.build e) := by
  rw [fetch, fetchSession, Session.ofAudited_bind_of_error h]
  exact ⟨rfl, rfl⟩

theorem follows_fetch (h : (d.plan r).outcome = .ok plan) :
    Follows source [] plan.statements r.YieldsPage (d.fetch source r) := by
  refine Follows.ofAudited_bind h ?_
  refine Follows.ask_bind fun all => ?_
  refine Follows.ask_bind fun found => ?_
  refine Follows.ask_bind fun rows => ?_
  exact .finished rfl rfl ⟨all, found, rows, rfl, rfl⟩

/-- Nothing is asked when the plan is refused.  Otherwise the calls are the
statements of the plan, as they are planned and in their order, up to the first
that fails, whose failure is that of the session.  When none fails, the page
has the draw number of its request, the totals that the first two answers give,
and the rows of the third. -/
theorem fetch_follows_plan (d : PagedTable) (source : Source ε) (r : Request) :
    (∀ e, (d.plan r).outcome = .error e →
      (d.fetch source r).calls = [] ∧
      (d.fetch source r).outcome = .error (.build e)) ∧
    ∀ plan, (d.plan r).outcome = .ok plan →
      (d.fetch source r).calls <+: [plan.total, plan.filtered, plan.data] ∧
      ((∃ i e, source.answer? [] plan.statements i = some (.error e) ∧
          (∀ j < i, ∃ rows,
            source.answer? [] plan.statements j = some (.ok rows)) ∧
          (d.fetch source r).calls = plan.statements.take (i + 1) ∧
          (d.fetch source r).outcome = .error (.source e)) ∨
        ∃ all found rows, source [] plan.total = .ok all ∧
          source [plan.total] plan.filtered = .ok found ∧
          source [plan.total, plan.filtered] plan.data = .ok rows ∧
          (d.fetch source r).calls =
            [plan.total, plan.filtered, plan.data] ∧
          (d.fetch source r).outcome =
            .ok ⟨r.draw, totalOf all, totalOf found, rows⟩) := by
  constructor
  · intro e h
    exact fetch_of_plan_eq_error h
  · intro plan h
    have hfollows : Follows source [] plan.statements r.YieldsPage
        (d.fetch source r) := follows_fetch h
    rcases hfollows.failed_or_finished with
      ⟨i, e, hfails, hbefore, htake, herror⟩ |
      ⟨answers, page, hanswers, hall, hok, all, found, rows, rfl, rfl⟩
    · refine ⟨?_, .inl ⟨i, e, hfails, hbefore, htake, herror⟩⟩
      rw [htake]
      exact List.take_prefix (i + 1) plan.statements
    · refine ⟨?_, .inr ⟨all, found, rows, ?_, ?_, ?_, hall, hok⟩⟩
      · rw [hall]
        exact List.prefix_rfl
      · exact Option.some.inj (hanswers 0)
      · exact Option.some.inj (hanswers 1)
      · exact Option.some.inj (hanswers 2)

/-- A table that is not listed, a source that fails at the second statement, and
one that answers all three. -/
theorem fetch_follows_plan_interrupted :
    let d : PagedTable :=
      { whitelist := .ofLists ["users"] ["id"], table := "users" }
    let unlisted : PagedTable := { d with table := "secrets" }
    let r : Request := { draw := 7, search := "ann" }
    let all : List Row := [[("total", .int 3)]]
    let found : List Row := [[("total", .int 2)]]
    let rows : List Row := [[("id", .int 1)], [("id", .int 5)]]
    let failing := Source.ofAnswers [.ok all, .error "gone", .ok rows]
    let answering : Source String :=
      Source.ofAnswers [.ok all, .ok found, .ok rows]
    (unlisted.fetch failing r).calls = [] ∧
      (unlisted.fetch failing r).outcome =
        .error (.build (.tableNotAllowed "secrets")) ∧
      ∃ plan, (d.plan r).outcome = .ok plan ∧
        (d.fetch failing r).calls = [plan.total, plan.filtered] ∧
        (d.fetch failing r).outcome = .error (.source "gone") ∧
        (d.fetch answering r).calls =
          [plan.total, plan.filtered, plan.data] ∧
        (d.fetch answering r).outcome = .ok ⟨7, 3, 2, rows⟩ := by
  intro d unlisted r all found rows failing answering
  have hrefused : (unlisted.plan r).outcome =
      .error (.tableNotAllowed "secrets") := rfl
  have hplan : ∃ plan, (d.plan r).outcome = .ok plan := by
    unfold d r
    exact ⟨_, rfl⟩
  obtain ⟨plan, hplan⟩ := hplan
  obtain ⟨hcalls, hrefusal⟩ :=
    (fetch_follows_plan unlisted failing r).1 _ hrefused
  obtain ⟨-, hfailing⟩ := (fetch_follows_plan d failing r).2 plan hplan
  obtain ⟨-, hanswering⟩ := (fetch_follows_plan d answering r).2 plan hplan
  have hinterrupted : (d.fetch failing r).calls = [plan.total, plan.filtered] ∧
      (d.fetch failing r).outcome = .error (.source "gone") := by
    rcases hfailing with ⟨i, e, hfails, hbefore, htake, herror⟩ |
      ⟨_, _, _, -, hsecond, -⟩
    · match i with
      | 0 => cases hfails
      | 1 =>
          cases hfails
          exact ⟨htake, herror⟩
      | _ + 2 =>
          obtain ⟨_, hanswer⟩ := hbefore 1 (by omega)
          cases hanswer
    · cases hsecond
  have hpage : (d.fetch answering r).calls =
      [plan.total, plan.filtered, plan.data] ∧
      (d.fetch answering r).outcome = .ok ⟨7, 3, 2, rows⟩ := by
    rcases hanswering with ⟨i, e, hfails, -⟩ |
      ⟨_, _, _, hfirst, hsecond, hthird, hall, hok⟩
    · match i with
      | 0 => cases hfails
      | 1 => cases hfails
      | 2 => cases hfails
      | _ + 3 => cases hfails
    · cases hfirst
      cases hsecond
      cases hthird
      exact ⟨hall, hok⟩
  exact ⟨hcalls, hrefusal, plan, hplan, hinterrupted.1, hinterrupted.2,
    hpage.1, hpage.2⟩

end GuardedSql.PagedTable
