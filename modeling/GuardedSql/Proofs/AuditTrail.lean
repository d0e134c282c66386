import GuardedSql.Proofs.Logs
import GuardedSql.Proofs.Plans
import GuardedSql.Proofs.Sessions

/-!
# The audit trail of a fetch

What a fetch asks its source can be read off its log.  The log starts with the
lines of the plan, which is complete before anything is asked.  Then it has one
line for each call, in the order of the calls, and a last one that describes the
page if a page comes of it.  Every call is of a statement whose line stands
before.
-/

namespace GuardedSql

/-! ## Lines of a fetch -/

def Statement.executingLine (s : Statement) : LogLine :=
  ⟨.debug, .paging, "executing",
    [("sql", s.sql), ("param_count", s.args.length.repr)]⟩

def LogLine.IsCall (line : LogLine) : Prop :=
  line.message = "executing"

def LogLine.IsPage (line : LogLine) : Prop :=
  line.message = "datatable page fetched"

instance : DecidablePred LogLine.IsCall :=
  fun line => inferInstanceAs (Decidable (line.message = _))

instance : DecidablePred LogLine.IsPage :=
  fun line => inferInstanceAs (Decidable (line.message = _))

/-- A line about neither a call nor a page. -/
def LogLine.IsPlanning (line : LogLine) : Prop :=
  ¬line.IsCall ∧ ¬line.IsPage

/-- Every line about a call stands after a line that says that a statement with
the same text and the same number of arguments is built. -/
def Announced (log : List LogLine) : Prop :=
  ∀ before line after, log = before ++ line :: after → line.IsCall →
    ∃ built ∈ before, built.message = "statement built" ∧
      built.fields = line.fields

theorem Statement.isCall_executingLine (s : Statement) :
    s.executingLine.IsCall :=
  rfl

theorem Statement.not_isPage_executingLine (s : Statement) :
    ¬s.executingLine.IsPage := by
  change "executing" ≠ "datatable page fetched"
  decide

theorem Statement.isPlanning_builtLine (s : Statement) :
    s.builtLine.IsPlanning := by
  change "statement built" ≠ "executing" ∧
    "statement built" ≠ "datatable page fetched"
  decide

theorem isPlanning_of_mem_orderLines {wl : Whitelist}
    {order? : Option SortOrder} {line : LogLine}
    (h : line ∈ orderLines wl order?) : line.IsPlanning := by
  have hmessage : line.message =
      "order column not allowed, ORDER BY omitted" := by
    match order? with
    | none => exact absurd h List.not_mem_nil
    | some order =>
        rw [orderLines] at h
        split at h
        · exact absurd h List.not_mem_nil
        · rw [List.mem_singleton.mp h]
  rw [LogLine.IsPlanning, LogLine.IsCall, LogLine.IsPage, hmessage]
  decide

theorem BuildError.Leaves.isPlanning {e : BuildError} {lines : List LogLine}
    (h : e.Leaves lines) {line : LogLine} (hline : line ∈ lines) :
    line.IsPlanning := by
  have hmessage : line.message ∈ ["rejected table", "rejected column",
      "rejected select column", "rejected search column"] := by
    rcases h with table | ⟨column, hmessage⟩ | -
    · rw [List.mem_singleton.mp hline]
      exact List.mem_cons_self
    · rw [List.mem_singleton.mp hline]
      exact List.mem_cons_of_mem _ hmessage
    · exact absurd hline List.not_mem_nil
  rw [LogLine.IsPlanning, LogLine.IsCall, LogLine.IsPage]
  constructor
  · intro hcall
    rw [hcall] at hmessage
    exact absurd hmessage (by decide)
  · intro hpage
    rw [hpage] at hmessage
    exact absurd hmessage (by decide)

/-- Lines about calls may stand after a front part that has none and in which
all of them are announced. -/
theorem announced_append {front back : List LogLine}
    (hfront : ∀ line ∈ front, ¬line.IsCall)
    (hback : ∀ line ∈ back, line.IsCall →
      ∃ built ∈ front, built.message = "statement built" ∧
        built.fields = line.fields) :
    Announced (front ++ back) := by
  intro before line after hlog hcall
  rcases List.append_eq_append_iff.mp hlog with
    ⟨middle, hbefore, hrest⟩ | ⟨middle, hsplit, hrest⟩
  · obtain ⟨built, hbuilt, hline⟩ := hback line (by simp [hrest]) hcall
    refine ⟨built, ?_, hline⟩
    rw [hbefore]
    exact List.mem_append_left middle hbuilt
  · match middle with
    | [] =>
        have hmem : line ∈ back := by
          rw [← List.nil_append back, ← hrest]
          exact List.mem_cons_self
        obtain ⟨built, hbuilt, hline⟩ := hback line hmem hcall
        refine ⟨built, ?_, hline⟩
        rwa [hsplit, List.append_nil] at hbuilt
    | first :: others =>
        obtain ⟨rfl, -⟩ := List.cons.inj hrest
        exact absurd hcall (hfront line (by simp [hsplit]))

theorem filter_eq_nil_of_forall_not {α : Type} {p : α → Prop} [DecidablePred p]
    {xs : List α} (h : ∀ x ∈ xs, ¬p x) : xs.filter (fun x => p x) = [] := by
  rw [List.filter_eq_nil_iff]
  simpa using h

/-! ## Planning -/

namespace Audited

variable {ε α β : Type} {x : Audited ε α} {f : α → Audited ε β}

theorem trail_bind_of_ok {a : α} (hx : x.outcome = .ok a) :
    (x >>= f).trail = x.trail ++ (f a).trail := by
  obtain ⟨trail, outcome⟩ := x
  cases hx
  rfl

theorem trail_bind_of_error {e : ε} (hx : x.outcome = .error e) :
    (x >>= f).trail = x.trail := by
  obtain ⟨trail, outcome⟩ := x
  cases hx
  rfl

def Plans (x : Audited ε α) : Prop :=
  ∀ line ∈ x.trail.map Event.line, line.IsPlanning

theorem Plans.bind (hx : x.Plans) (hf : ∀ a, (f a).Plans) : (x >>= f).Plans := by
  intro line hline
  match houtcome : x.outcome with
  | .ok a =>
      rw [trail_bind_of_ok houtcome, List.map_append, List.mem_append] at hline
      exact hline.elim (hx line) (hf a line)
  | .error e =>
      rw [trail_bind_of_error houtcome] at hline
      exact hx line hline

theorem plans_pure (a : α) : (pure a : Audited ε α).Plans := by
  intro line hline
  exact absurd hline List.not_mem_nil

end Audited

theorem Select.plans_build (q : Select) (wl : Whitelist) :
    (q.build wl).Plans := by
  intro line hline
  rcases q.logs_build wl with ⟨s, -, hlines⟩ | ⟨e, -, hleaves⟩
  · rw [hlines, List.mem_append, List.mem_pair] at hline
    rcases hline with horder | rfl | rfl
    · exact isPlanning_of_mem_orderLines horder
    · exact s.data.isPlanning_builtLine
    · exact s.count.isPlanning_builtLine
  · exact hleaves.isPlanning hline

theorem Select.lines_build {q : Select} {wl : Whitelist} {s : Select.Statements}
    (h : (q.build wl).outcome = .ok s) :
    (q.build wl).trail.map Event.line =
      orderLines wl q.orderBy ++ [s.data.builtLine, s.count.builtLine] := by
  rcases q.logs_build wl with ⟨s', hs', hlines⟩ | ⟨e, he, -⟩
  · rw [hlines]
    cases h.symm.trans hs'
    rfl
  · cases h.symm.trans he

namespace PagedTable

variable {ε α : Type} {d : PagedTable} {source : Source ε} {r : Request}
  {plan : Plan}

theorem plans_plan (d : PagedTable) (r : Request) : (d.plan r).Plans := by
  refine (d.allRows.plans_build d.whitelist).bind fun all => ?_
  refine ((d.pageRows r).plans_build d.whitelist).bind fun page => ?_
  exact Audited.plans_pure _

/-- The statements of a plan are built in full before the plan is there. -/
theorem builtLine_mem_of_plan (h : (d.plan r).outcome = .ok plan)
    {s : Statement} (hs : s ∈ plan.statements) :
    s.builtLine ∈ (d.plan r).trail.map Event.line := by
  obtain ⟨all, page, hall, hpage, rfl⟩ := plan_eq_ok h
  have htrail : (d.plan r).trail =
      (d.allRows.build d.whitelist).trail ++
        (((d.pageRows r).build d.whitelist).trail ++ []) := by
    refine (Audited.trail_bind_of_ok hall).trans (congrArg _ ?_)
    exact Audited.trail_bind_of_ok hpage
  rw [htrail, List.append_nil, List.map_append, Select.lines_build hall,
    Select.lines_build hpage]
  have hcases : s = all.count ∨ s = page.count ∨ s = page.data := by
    simpa [Plan.statements] using hs
  rcases hcases with rfl | rfl | rfl
  · simp
  · simp
  · simp

/-! ## Calls -/

/-- The lines that end a log: those of the result, if there is one. -/
def closing (lines : α → List LogLine) : Except (SessionError ε) α →
    List LogLine
  | .ok a => lines a
  | .error _ => []

/-- A run leaves a line for each of its calls, in order, and then the lines of
its result. -/
def Run.Reports (run : Run ε α) (lines : α → List LogLine) : Prop :=
  run.trail.map Event.line =
    run.calls.map Statement.executingLine ++ closing lines run.outcome

theorem Run.Reports.ask_bind {s : Statement} {asked : List Statement}
    {f : List Row → Session ε α} {lines : α → List LogLine}
    (h : ∀ rows, (f rows (asked ++ [s])).Reports lines) :
    ((Session.ask source s >>= f) asked).Reports lines := by
  match hanswer : source asked s with
  | .error e =>
      rw [Session.ask_bind_of_error hanswer]
      rfl
  | .ok rows =>
      rw [Session.ask_bind_of_ok hanswer]
      exact congrArg (s.executingLine :: ·) (h rows)

def Page.fetchedLine (table : String) (page : Page) : LogLine :=
  ⟨.debug, .paging, "datatable page fetched",
    [("table", table), ("draw", page.draw.toNat.repr),
      ("records_total", page.total.toNat.repr),
      ("records_filtered", page.filtered.toNat.repr),
      ("rows", page.rows.length.repr)]⟩

theorem Page.isPage_fetchedLine (table : String) (page : Page) :
    (page.fetchedLine table).IsPage :=
  rfl

theorem Page.not_isCall_fetchedLine (table : String) (page : Page) :
    ¬(page.fetchedLine table).IsCall := by
  change "datatable page fetched" ≠ "executing"
  decide

/-- The log of a fetch is the log of its plan, a line for each call and the line
of the page. -/
theorem lines_fetch (d : PagedTable) (source : Source ε) (r : Request) :
    (d.fetch source r).trail.map Event.line =
      (d.plan r).trail.map Event.line ++
        ((d.fetch source r).calls.map Statement.executingLine ++
          closing (fun page => [page.fetchedLine d.table])
            (d.fetch source r).outcome) := by
  match h : (d.plan r).outcome with
  | .error e =>
      rw [fetch, fetchSession, Session.ofAudited_bind_of_error h]
      exact (List.append_nil _).symm
  | .ok plan =>
      rw [fetch, fetchSession, Session.ofAudited_bind_of_ok h, List.map_append]
      refine congrArg (_ ++ ·) ?_
      refine Run.Reports.ask_bind fun all => ?_
      refine Run.Reports.ask_bind fun found => ?_
      refine Run.Reports.ask_bind fun rows => ?_
      rfl

/-- Nothing but the statements of a plan is asked. -/
theorem exists_plan_of_mem_calls {s : Statement}
    (hs : s ∈ (d.fetch source r).calls) :
    ∃ plan, (d.plan r).outcome = .ok plan ∧ s ∈ plan.statements := by
  match h : (d.plan r).outcome with
  | .error e =>
      rw [(fetch_of_plan_eq_error h).1] at hs
      exact absurd hs List.not_mem_nil
  | .ok plan =>
      refine ⟨plan, rfl, ?_⟩
      rcases (follows_fetch h).failed_or_finished with
        ⟨i, e, -, -, hcalls, -⟩ | ⟨answers, page, -, hcalls, -⟩
      · rw [hcalls] at hs
        exact List.mem_of_mem_take hs
      · rwa [hcalls] at hs

theorem not_isCall_of_mem_closing {table : String}
    {outcome : Except (SessionError ε) Page} {line : LogLine}
    (h : line ∈ closing (fun page => [page.fetchedLine table]) outcome) :
    ¬line.IsCall := by
  match outcome with
  | .ok page =>
      rw [List.mem_singleton.mp h]
      exact page.not_isCall_fetchedLine table
  | .error e => exact absurd h List.not_mem_nil

/-- The calls of a fetch can be read off its log.  The lines about calls are
those of the calls that are made, in order, and each of them stands after the
line of its statement being built.  When a page comes of the fetch, its line is
the last one and the only one about a page; when the fetch fails, there is
none. -/
theorem fetch_leaves_audit_trail (d : PagedTable) (source : Source ε)
    (r : Request) :
    let run := d.fetch source r
    let log := run.trail.map Event.line
    log.filter (fun line => line.IsCall) =
        run.calls.map Statement.executingLine ∧
      Announced log ∧
      (∀ page, run.outcome = .ok page →
        log.filter (fun line => line.IsPage) = [page.fetchedLine d.table] ∧
        log.getLast? = some (page.fetchedLine d.table)) ∧
      ∀ e, run.outcome = .error e → ∀ line ∈ log, ¬line.IsPage := by
  intro run log
  have hlog : log = (d.plan r).trail.map Event.line ++
      (run.calls.map Statement.executingLine ++
        closing (fun page => [page.fetchedLine d.table]) run.outcome) :=
    lines_fetch d source r
  have hplan : (d.plan r).Plans := plans_plan d r
  have hcalls : ∀ line ∈ run.calls.map Statement.executingLine,
      line.IsCall ∧ ¬line.IsPage := by
    intro line hline
    obtain ⟨s, -, rfl⟩ := List.mem_map.mp hline
    exact ⟨s.isCall_executingLine, s.not_isPage_executingLine⟩
  refine ⟨?_, ?_, ?_, ?_⟩
  · have hnone : ((d.plan r).trail.map Event.line).filter
        (fun line => line.IsCall) = [] :=
      filter_eq_nil_of_forall_not fun line hline => (hplan line hline).1
    have hall : (run.calls.map Statement.executingLine).filter
        (fun line => line.IsCall) =
          run.calls.map Statement.executingLine := by
      rw [List.filter_eq_self]
      intro line hline
      simpa using (hcalls line hline).1
    have hlast : (closing (fun page => [page.fetchedLine d.table])
        run.outcome).filter (fun line => line.IsCall) = [] :=
      filter_eq_nil_of_forall_not fun _ => not_isCall_of_mem_closing
    rw [hlog, List.filter_append, List.filter_append, hnone, hall, hlast,
      List.nil_append, List.append_nil]
  · rw [hlog]
    refine announced_append (fun line hline => (hplan line hline).1) ?_
    intro line hline hcall
    rcases List.mem_append.mp hline with hmade | hending
    · obtain ⟨s, hs, rfl⟩ := List.mem_map.mp hmade
      obtain ⟨plan, hok, hstatement⟩ := exists_plan_of_mem_calls hs
      exact ⟨s.builtLine, builtLine_mem_of_plan hok hstatement, rfl, rfl⟩
    · exact absurd hcall (not_isCall_of_mem_closing hending)
  · intro page hok
    have hpage : log = ((d.plan r).trail.map Event.line ++
        run.calls.map Statement.executingLine) ++
          [page.fetchedLine d.table] := by
      rw [hlog, hok, List.append_assoc]
      rfl
    have hbefore : ((d.plan r).trail.map Event.line ++
        run.calls.map Statement.executingLine).filter
          (fun line => line.IsPage) = [] := by
      apply filter_eq_nil_of_forall_not
      intro line hline
      rcases List.mem_append.mp hline with hplanned | hmade
      · exact (hplan line hplanned).2
      · exact (hcalls line hmade).2
    constructor
    · rw [hpage, List.filter_append, hbefore, List.nil_append]
      exact List.filter_cons_of_pos (by
        simpa using page.isPage_fetchedLine d.table)
    · rw [hpage, List.getLast?_concat]
  · intro e herror line hline
    rw [hlog, herror, List.mem_append] at hline
    rcases hline with hplanned | hmade
    · exact (hplan line hplanned).2
    · exact (hcalls line (by simpa [closing] using hmade)).2

/-- A source that fails at the second statement, one that answers all three, and
filters that are refused after the first two statements are built. -/
theorem fetch_leaves_audit_trail_interrupted :
    let d : PagedTable :=
      { whitelist := .ofLists ["users"] ["id"], table := "users" }
    let refused : PagedTable :=
      { d with filters := .ofList [⟨"age", .equal, .single (.int 30)⟩] }
    let r : Request := { draw := 7, search := "ann", orderColumn := some "age" }
    let all : List Row := [[("total", .int 3)]]
    let found : List Row := [[("total", .int 2)]]
    let rows : List Row := [[("id", .int 1)], [("id", .int 5)]]
    let failing := Source.ofAnswers [.ok all, .error "gone", .ok rows]
    let answering : Source String :=
      Source.ofAnswers [.ok all, .ok found, .ok rows]
    let log := fun run : Run String Page => run.trail.map Event.line
    let second : List (String × String) :=
      [("sql", "SELECT COUNT(1) AS total FROM users WHERE 1=1 AND (id LIKE ?)"),
        ("param_count", "1")]
    (log (d.fetch failing r)).filter (fun line => line.IsCall) =
        [⟨.debug, .paging, "executing",
            [("sql", "SELECT COUNT(1) AS total FROM users WHERE 1=1"),
              ("param_count", "0")]⟩,
          ⟨.debug, .paging, "executing", second⟩] ∧
      (∃ built ∈ (log (d.fetch failing r)).dropLast,
        built.message = "statement built" ∧ built.fields = second) ∧
      (∀ line ∈ log (d.fetch failing r), ¬line.IsPage) ∧
      (log (d.fetch answering r)).getLast? =
        some ⟨.debug, .paging, "datatable page fetched",
          [("table", "users"), ("draw", "7"), ("records_total", "3"),
            ("records_filtered", "2"), ("rows", "2")]⟩ ∧
      (log (refused.fetch answering r)).filter (fun line => line.IsCall) =
        [] := by
  intro d refused r all found rows failing answering log second
  obtain ⟨hcalls, hannounced, -, hfailed⟩ :=
    fetch_leaves_audit_trail d failing r
  obtain ⟨-, -, hpage, -⟩ := fetch_leaves_audit_trail d answering r
  obtain ⟨hrefused, -⟩ := fetch_leaves_audit_trail refused answering r
  have hgone : (d.fetch failing r).outcome = .error (.source "gone") := by
    unfold d failing r all rows
    rfl
  have hfetched : (d.fetch answering r).outcome = .ok ⟨7, 3, 2, rows⟩ := by
    unfold d answering r all found rows
    rfl
  have hlast : log (d.fetch failing r) = (log (d.fetch failing r)).dropLast ++
      ⟨.debug, .paging, "executing", second⟩ :: [] := by
    decide
  refine ⟨hcalls.trans (by decide), ?_, hfailed _ hgone, ?_, hrefused⟩
  · exact hannounced _ _ _ hlast rfl
  · exact (hpage _ hfetched).2.trans (by decide)

end PagedTable

end GuardedSql
