import GuardedSql.Change
import GuardedSql.Insert
import GuardedSql.Proofs.Acceptance
import GuardedSql.Select

/-!
# Logs tell the truth

If a statement is refused for a table or a column, the only line in the log says
so and names it; if it is refused for anything else there is none.  If it is
built, the log ends with a line that shows its text and the number of its
arguments.  Before it stands nothing, except for an order that is left out and
an update without conditions.
-/

namespace GuardedSql

/-! ## Lines -/

structure LogLine where
  level : Level
  topic : Topic
  message : String
  fields : List (String × String)
  deriving DecidableEq, Repr

def Event.line (event : Event) : LogLine :=
  ⟨event.level, event.topic, event.message, event.fields⟩

/-- An error that is about neither a table nor a column. -/
def BuildError.IsSilent : BuildError → Prop
  | .tableNotAllowed _ | .columnNotAllowed _ => False
  | _ => True

/-- The lines that a refused statement leaves. -/
inductive BuildError.Leaves : BuildError → List LogLine → Prop
  | table (table : String) :
      Leaves (.tableNotAllowed table)
        [⟨.debug, .whitelist, "rejected table", [("table", table)]⟩]
  | column (column : String) {message : String}
      (h : message ∈ ["rejected column", "rejected select column",
        "rejected search column"]) :
      Leaves (.columnNotAllowed column)
        [⟨.debug, .whitelist, message, [("column", column)]⟩]
  | other {e : BuildError} (h : e.IsSilent) : Leaves e []

def Statement.builtLine (s : Statement) : LogLine :=
  ⟨.trace, .sql, "statement built",
    [("sql", s.sql), ("param_count", s.args.length.repr)]⟩

/-- The line of an order that is left out, if it is. -/
def orderLines (wl : Whitelist) : Option SortOrder → List LogLine
  | none => []
  | some order =>
    if order.column ∈ wl.columns then []
    else
      [⟨.debug, .whitelist, "order column not allowed, ORDER BY omitted",
        [("column", order.column)]⟩]

def unconditionalLines (table : String) (conditions : Record) : List LogLine :=
  if conditions.entries = [] then
    [⟨.warning, .sql, "UPDATE without WHERE conditions", [("table", table)]⟩]
  else []

/-- A refusal does not look like a success, nor like an update that is carried
out on all rows. -/
theorem BuildError.Leaves.message_ne {e : BuildError} {lines : List LogLine}
    (h : e.Leaves lines) {line : LogLine} (hline : line ∈ lines) :
    line.message ≠ "statement built" ∧
      line.message ≠ "UPDATE without WHERE conditions" := by
  cases h with
  | table table =>
      rw [List.mem_singleton.mp hline]
      change "rejected table" ≠ _ ∧ "rejected table" ≠ _
      decide
  | column column hmessage =>
      rw [List.mem_singleton.mp hline]
      constructor
      · rintro rfl
        exact absurd hmessage (by decide)
      · rintro rfl
        exact absurd hmessage (by decide)
  | other => exact absurd hline List.not_mem_nil

/-! ## Computations that log -/

namespace Audited

variable {α β : Type}

/-- A result comes with the lines that belong to it, and an error with those
that a refusal leaves. -/
inductive Logs (x : Audited BuildError α) (lines : α → List LogLine) : Prop
  | accepted (a : α) (hx : x.outcome = .ok a)
      (h : x.trail.map Event.line = lines a)
  | refused (e : BuildError) (hx : x.outcome = .error e)
      (h : e.Leaves (x.trail.map Event.line))

/-- A result comes without any lines. -/
abbrev Quiet (x : Audited BuildError α) : Prop :=
  x.Logs fun _ => []

variable {x : Audited BuildError α} {f : α → Audited BuildError β}

theorem quiet_pure (a : α) : (pure a : Audited BuildError α).Quiet :=
  .accepted a rfl rfl

theorem logs_fail (e : BuildError) (h : e.IsSilent)
    {lines : α → List LogLine} : (fail e : Audited BuildError α).Logs lines :=
  .refused e rfl (.other h)

/-- What follows a quiet computation decides about the lines. -/
theorem Quiet.bind (hx : x.Quiet) {lines : β → List LogLine}
    (hf : ∀ a, (f a).Logs lines) : (x >>= f).Logs lines := by
  obtain ⟨trail, outcome⟩ := x
  rcases hx with ⟨a, rfl, htrail⟩ | ⟨e, rfl, hleaves⟩
  · cases List.map_eq_nil_iff.mp htrail
    exact hf a
  · exact .refused e rfl hleaves

/-- What follows a computation adds its lines, provided that it does not fail:
there would be lines before those of a refusal then. -/
theorem Logs.append {before : List LogLine} {after : β → List LogLine}
    (hx : x.Logs fun _ => before)
    (hf : ∀ a, ∃ b, (f a).outcome = .ok b ∧
      (f a).trail.map Event.line = after b) :
    (x >>= f).Logs fun b => before ++ after b := by
  obtain ⟨trail, outcome⟩ := x
  rcases hx with ⟨a, rfl, htrail⟩ | ⟨e, rfl, hleaves⟩
  · obtain ⟨b, hb, hafter⟩ := hf a
    refine .accepted b hb ?_
    rw [bind_ok, List.map_append, htrail, hafter]
  · exact .refused e rfl hleaves

theorem Logs.bind_pure {lines : List LogLine} (hx : x.Logs fun _ => lines)
    (g : α → β) : (x >>= fun a => pure (g a)).Logs fun _ => lines := by
  have hnone : (x >>= fun a => pure (g a)).Logs fun _ => lines ++ [] :=
    hx.append fun a => ⟨g a, rfl, rfl⟩
  rwa [List.append_nil] at hnone

theorem quiet_mapM {xs : List α} (h : ∀ a ∈ xs, (f a).Quiet) :
    (xs.mapM f).Quiet := by
  induction xs with
  | nil => exact quiet_pure []
  | cons a rest ih =>
      obtain ⟨ha, hrest⟩ := List.forall_mem_cons.mp h
      rw [List.mapM_cons]
      exact ha.bind fun b => (ih hrest).bind_pure _

theorem quiet_forM {f : α → Audited BuildError PUnit} {xs : List α}
    (h : ∀ a ∈ xs, (f a).Quiet) : (xs.forM f).Quiet := by
  induction xs with
  | nil => exact quiet_pure PUnit.unit
  | cons a rest ih =>
      obtain ⟨ha, hrest⟩ := List.forall_mem_cons.mp h
      exact ha.bind fun _ => ih hrest

end Audited

open Audited

/-! ## Checks -/

namespace Whitelist

variable (wl : Whitelist)

theorem quiet_checkTable (table : String) : (wl.checkTable table).Quiet := by
  unfold checkTable
  split
  · exact quiet_pure ()
  · exact .refused _ rfl (.table table)

theorem quiet_checkColumn (use : ColumnUse) (column : String) :
    (wl.checkColumn use column).Quiet := by
  have hmessage : (Event.columnRejected use column).message ∈
      ["rejected column", "rejected select column",
        "rejected search column"] := by
    cases use with
    | _ => simp [Event.message]
  unfold checkColumn
  split
  · exact quiet_pure ()
  · exact .refused _ rfl (.column column hmessage)

theorem quiet_checkColumns (use : ColumnUse) (columns : List String) :
    (wl.checkColumns use columns).Quiet :=
  quiet_forM fun column _ => wl.quiet_checkColumn use column

end Whitelist

/-! ## Clauses -/

section

variable (wl : Whitelist)

/-- A value that does not fit its operator is refused without a line. -/
theorem Filter.isSilent_misfit (f : Filter) : f.misfit.IsSilent := by
  unfold misfit
  split
  · trivial
  · trivial

theorem Predicate.quiet_conditionOf (use : ColumnUse) (f : Filter) :
    (conditionOf wl use f).Quiet := by
  have hcondition : (ofExcept f.condition?).Quiet := by
    cases f.decidedBy_condition? with
    | accepted c? hc? => exact .accepted c? hc? rfl
    | refused e he hviolated =>
        rcases hviolated with ⟨-, rfl⟩ | ⟨-, hfalse⟩
        · exact .refused _ he (.other f.isSilent_misfit)
        · exact hfalse.elim
  exact (wl.quiet_checkColumn use f.column).bind fun _ => hcondition

theorem Predicate.quiet_termOf (c : Criterion) : (termOf wl c).Quiet := by
  cases c with
  | filter f => exact (quiet_conditionOf wl .plain f).bind_pure _
  | anyOf group =>
      have hgroup : (group.mapM (conditionOf wl .searched)).Quiet :=
        quiet_mapM fun f _ => quiet_conditionOf wl .searched f
      exact hgroup.bind_pure _

theorem Predicate.quiet_ofFilters (fs : Filters) : (ofFilters wl fs).Quiet := by
  have hterms : (fs.criteria.mapM (termOf wl)).Quiet :=
    quiet_mapM fun c _ => quiet_termOf wl c
  exact hterms.bind_pure _

theorem quiet_whereClause (fs : Filters) : (whereClause wl fs).Quiet :=
  (Predicate.quiet_ofFilters wl fs).bind_pure _

theorem quiet_havingClause (fs : Filters) : (havingClause wl fs).Quiet := by
  unfold havingClause
  split
  · exact quiet_pure Statement.empty
  · exact (Predicate.quiet_ofFilters wl fs).bind_pure _

theorem Join.quiet_check (j : Join) : (j.check wl).Quiet := by
  refine (wl.quiet_checkTable j.table).bind fun _ => ?_
  cases j.on with
  | raw text => exact quiet_pure ()
  | columns left right => exact wl.quiet_checkColumns .plain [left, right]

theorem quiet_joinClause (joins : List Join) : (joinClause wl joins).Quiet := by
  have hjoins : (joins.forM (Join.check wl)).Quiet :=
    quiet_forM fun j _ => j.quiet_check wl
  exact hjoins.bind_pure _

theorem quiet_columnList (columns : List String) :
    (columnList wl columns).Quiet := by
  unfold columnList
  split
  · exact quiet_pure "*"
  · exact (wl.quiet_checkColumns .selected columns).bind_pure _

theorem quiet_groupClause (columns : List String) :
    (groupClause wl columns).Quiet := by
  unfold groupClause
  split
  · exact quiet_pure ""
  · exact (wl.quiet_checkColumns .plain columns).bind_pure _

theorem logs_orderClause (order? : Option SortOrder) :
    (orderClause wl order?).Logs fun _ => orderLines wl order? := by
  cases order? with
  | none => exact quiet_pure ""
  | some order =>
      unfold orderClause orderLines
      by_cases hcolumn : order.column ∈ wl.columns
      · simp only [hcolumn, Whitelist.hasColumn_iff.mpr hcolumn, if_true]
        exact quiet_pure _
      · have hnot : ¬wl.hasColumn order.column = true := by
          rwa [Whitelist.hasColumn_iff]
        simp only [hcolumn, hnot, if_false]
        exact .accepted "" rfl rfl

theorem quiet_equalityClause (conditions : Record) :
    (equalityClause wl conditions).Quiet :=
  (wl.quiet_checkColumns .plain conditions.keys).bind_pure _

/-! ## Builders -/

theorem Statement.logs_built (s : Statement) :
    (s.built : Audited BuildError Statement).Logs fun s => [s.builtLine] :=
  .accepted s rfl rfl

theorem Select.logs_clauses (q : Select) :
    (q.clauses wl).Logs fun _ => orderLines wl q.orderBy := by
  unfold clauses
  refine (wl.quiet_checkTable q.table).bind fun _ => ?_
  refine (quiet_joinClause wl q.joins).bind fun joins => ?_
  refine (quiet_columnList wl q.columns).bind fun columns => ?_
  refine (quiet_whereClause wl q.filters).bind fun conditions => ?_
  refine (quiet_groupClause wl q.groupBy).bind fun groupBy => ?_
  refine (quiet_havingClause wl q.having).bind fun having => ?_
  exact (logs_orderClause wl q.orderBy).bind_pure _

theorem Select.logs_build (q : Select) :
    (q.build wl).Logs fun s =>
      orderLines wl q.orderBy ++ [s.data.builtLine, s.count.builtLine] :=
  (q.logs_clauses wl).append fun c => ⟨⟨c.data, c.count⟩, rfl, rfl⟩

theorem logs_insertRows (table : String) (rows : List Record)
    (onDuplicate : List String) :
    (insertRows wl table rows onDuplicate).Logs fun s => [s.builtLine] := by
  refine (wl.quiet_checkTable table).bind fun _ => ?_
  cases rows with
  | nil => exact logs_fail .noInsertableColumns trivial
  | cons first rest =>
      dsimp only
      split
      · exact logs_fail .noInsertableColumns trivial
      · split
        · exact logs_fail (.rowSchema _) trivial
        · exact Statement.logs_built _

theorem logs_update (table : String) (data conditions : Record) :
    (update wl table data conditions).Logs fun s =>
      unconditionalLines table conditions ++ [s.builtLine] := by
  refine (wl.quiet_checkTable table).bind fun _ => ?_
  split
  · exact logs_fail .noUpdatableFields trivial
  · refine (wl.quiet_checkColumns .plain data.keys).bind fun _ => ?_
    refine (quiet_equalityClause wl conditions).bind fun matching => ?_
    unfold unconditionalLines
    split
    · rename_i hempty
      rw [if_pos (List.isEmpty_iff.mp hempty)]
      exact .accepted _ rfl rfl
    · rename_i hsome
      rw [if_neg fun hnil => hsome (List.isEmpty_iff.mpr hnil)]
      exact .accepted _ rfl rfl

theorem logs_delete (table : String) (conditions : Record) :
    (delete wl table conditions).Logs fun s => [s.builtLine] := by
  refine (wl.quiet_checkTable table).bind fun _ => ?_
  split
  · exact logs_fail .missingWhere trivial
  · refine (quiet_equalityClause wl conditions).bind fun matching => ?_
    exact Statement.logs_built _

end

/-! ## What a log shows -/

/-- A builder that succeeds ends its log with a line for each statement and
writes nothing before it, except for an order that is left out and an update
without conditions.  A builder that fails leaves the line of its error, if the
error has one, and such a line is none of those that a success leaves. -/
theorem logs_tell_the_truth (wl : Whitelist) :
    (∀ q : Select, (q.build wl).Logs fun s =>
      orderLines wl q.orderBy ++ [s.data.builtLine, s.count.builtLine]) ∧
    (∀ table row onDuplicate,
      (insertRow wl table row onDuplicate).Logs fun s => [s.builtLine]) ∧
    (∀ table rows onDuplicate,
      (insertRows wl table rows onDuplicate).Logs fun s => [s.builtLine]) ∧
    (∀ table data conditions, (update wl table data conditions).Logs fun s =>
      unconditionalLines table conditions ++ [s.builtLine]) ∧
    (∀ table conditions,
      (delete wl table conditions).Logs fun s => [s.builtLine]) ∧
    ∀ (e : BuildError) (lines : List LogLine), e.Leaves lines →
      ∀ line ∈ lines, line.message ≠ "statement built" ∧
        line.message ≠ "UPDATE without WHERE conditions" := by
  refine ⟨?_, ?_, ?_, ?_, ?_, ?_⟩
  · exact fun q => q.logs_build wl
  · intro table row onDuplicate
    exact logs_insertRows wl table [row] onDuplicate
  · exact logs_insertRows wl
  · exact logs_update wl
  · exact logs_delete wl
  · intro e lines h line hline
    exact h.message_ne hline

/-- An order that is left out, an update of all rows, and a deletion that is
refused for its second column. -/
theorem logs_tell_the_truth_unlisted :
    let wl := Whitelist.ofLists ["users"] ["id"]
    let q : Select :=
      { table := "users", orderBy := some ⟨"age", .descending⟩ }
    let data : Record := .ofList [("id", .int 1)]
    let conditions : Record := .ofList [("id", .int 1), ("role", .int 2)]
    let refusal : LogLine :=
      ⟨.debug, .whitelist, "rejected column", [("column", "role")]⟩
    (q.build wl).trail.map Event.line =
        [⟨.debug, .whitelist, "order column not allowed, ORDER BY omitted",
            [("column", "age")]⟩,
          ⟨.trace, .sql, "statement built",
            [("sql", "SELECT * FROM users WHERE 1=1 LIMIT ? OFFSET ?"),
              ("param_count", "2")]⟩,
          ⟨.trace, .sql, "statement built",
            [("sql", "SELECT COUNT(1) AS total FROM users WHERE 1=1"),
              ("param_count", "0")]⟩] ∧
      (update wl "users" data .empty).trail.map Event.line =
        [⟨.warning, .sql, "UPDATE without WHERE conditions",
            [("table", "users")]⟩,
          ⟨.trace, .sql, "statement built",
            [("sql", "UPDATE users SET id = ? WHERE 1=1"),
              ("param_count", "1")]⟩] ∧
      (delete wl "users" conditions).trail.map Event.line = [refusal] ∧
      refusal.message ≠ "statement built" := by
  intro wl q data conditions refusal
  obtain ⟨hbuild, -, -, hupdate, hdelete, hmessage⟩ := logs_tell_the_truth wl
  refine ⟨?_, ?_, ?_, ?_⟩
  · rcases hbuild q with ⟨s, hs, hlines⟩ | ⟨e, he, -⟩
    · cases hs
      rw [hlines]
      decide
    · cases he
  · rcases hupdate "users" data .empty with ⟨s, hs, hlines⟩ | ⟨e, he, -⟩
    · cases hs
      rw [hlines]
      decide
    · cases he
  · rfl
  · rcases hdelete "users" conditions with ⟨s, hs, -⟩ | ⟨e, -, hleaves⟩
    · cases hs
    · exact (hmessage e _ hleaves refusal List.mem_cons_self).1

end GuardedSql
