import GuardedSql.Proofs.WrittenForms

/-!
# How lists of filters are put together

The criteria of a list of filters are what the steps of its construction
contribute, in their order.  A clause respects this: the conditions of a longer
list are written as those of its parts, one after the other, and the longer list
is refused as the first part is which is refused by itself.
-/

namespace GuardedSql

namespace Filters

/-! ## Steps -/

/-- A function that adds to a list of filters at its end, and what it is called
with. -/
inductive Step where
  | add (f : Filter)
  | equal (column : String) (operand : Operand)
  | like (column : String) (operand : Operand)
  | orLike (column : String) (operand : Operand)
  | greater (column : String) (operand : Operand)
  | less (column : String) (operand : Operand)
  | atLeast (column : String) (operand : Operand)
  | atMost (column : String) (operand : Operand)
  | inList (column : String) (operand : Operand)
  | between (column : String) (low high : Value)
  | anyOf (group : List Filter)

namespace Step

def apply (fs : Filters) : Step → Filters
  | add f => fs.add f
  | equal column operand => fs.equal column operand
  | like column operand => fs.like column operand
  | orLike column operand => fs.orLike column operand
  | greater column operand => fs.greater column operand
  | less column operand => fs.less column operand
  | atLeast column operand => fs.atLeast column operand
  | atMost column operand => fs.atMost column operand
  | inList column operand => fs.inList column operand
  | between column low high => fs.between column low high
  | anyOf group => fs.anyOf group

/-- The criteria that a step contributes, whatever stands before it. -/
def contribution : Step → List Criterion
  | add f => [.filter f]
  | equal column operand => [.filter ⟨column, .equal, operand⟩]
  | like column operand => [.filter ⟨column, .like, operand⟩]
  | orLike column operand => [.filter ⟨column, .orLike, operand⟩]
  | greater column operand => [.filter ⟨column, .greater, operand⟩]
  | less column operand => [.filter ⟨column, .less, operand⟩]
  | atLeast column operand => [.filter ⟨column, .atLeast, operand⟩]
  | atMost column operand => [.filter ⟨column, .atMost, operand⟩]
  | inList column operand => [.filter ⟨column, .inList, operand⟩]
  | between column low high =>
    [.filter ⟨column, .between, .list [low, high]⟩]
  | anyOf [] => []
  | anyOf (f :: rest) => [.anyOf (f :: rest)]

theorem criteria_apply (fs : Filters) (step : Step) :
    (step.apply fs).criteria = fs.criteria ++ step.contribution := by
  cases step with
  | anyOf group =>
      rw [apply, criteria_anyOf]
      cases group with
      | nil => rfl
      | cons f rest => rfl
  | _ => rfl

end Step

/-! ## Constructions -/

theorem criteria_ofMap (entries : List (String × Operator × Operand)) :
    (ofMap entries).criteria =
      entries.map fun entry => .filter ⟨entry.1, entry.2.1, entry.2.2⟩ :=
  List.map_map

theorem criteria_ofEqualities (entries : List (String × Operand)) :
    (ofEqualities entries).criteria =
      entries.map fun entry => .filter ⟨entry.1, .equal, entry.2⟩ :=
  List.map_map

/-- A way to build a list of filters: from nothing, from a list or the entries
of a map, by a further step, or from two lists that are built before. -/
inductive Construction where
  | empty
  | ofList (filters : List Filter)
  | ofMap (entries : List (String × Operator × Operand))
  | ofEqualities (entries : List (String × Operand))
  | step (before : Construction) (s : Step)
  | append (before other : Construction)

namespace Construction

def build : Construction → Filters
  | empty => .empty
  | ofList filters => .ofList filters
  | ofMap entries => .ofMap entries
  | ofEqualities entries => .ofEqualities entries
  | step before s => s.apply before.build
  | append before other => before.build ++ other.build

/-- What the steps contribute, in their order.  A list that is appended
contributes all that it was built from. -/
def contributions : Construction → List (List Criterion)
  | empty => []
  | ofList filters => [filters.map .filter]
  | ofMap entries =>
    [entries.map fun entry => .filter ⟨entry.1, entry.2.1, entry.2.2⟩]
  | ofEqualities entries =>
    [entries.map fun entry => .filter ⟨entry.1, .equal, entry.2⟩]
  | step before s => before.contributions ++ [s.contribution]
  | append before other =>
    before.contributions ++ [other.contributions.flatten]

theorem criteria_build (c : Construction) :
    c.build.criteria = c.contributions.flatten := by
  induction c with
  | empty => rfl
  | ofList filters =>
      rw [build, contributions, List.flatten_singleton, criteria_ofList]
  | ofMap entries =>
      rw [build, contributions, List.flatten_singleton, criteria_ofMap]
  | ofEqualities entries =>
      rw [build, contributions, List.flatten_singleton, criteria_ofEqualities]
  | step before s ih =>
      rw [build, contributions, Step.criteria_apply, ih, List.flatten_concat]
  | append before other ihBefore ihOther =>
      rw [build, contributions, criteria_append, ihBefore, ihOther,
        List.flatten_concat]

end Construction

/-! ## A monoid -/

theorem empty_append (fs : Filters) : empty ++ fs = fs := rfl

theorem append_empty (fs : Filters) : fs ++ empty = fs :=
  congrArg mk (List.append_nil fs.criteria)

theorem append_assoc (fs gs hs : Filters) : fs ++ gs ++ hs = fs ++ (gs ++ hs) :=
  congrArg mk (List.append_assoc fs.criteria gs.criteria hs.criteria)

/-! ## Conditions of a longer list -/

theorem checks_append (wl : Whitelist) (fs gs : Filters) :
    (fs ++ gs).checks wl = fs.checks wl ++ gs.checks wl :=
  List.flatMap_append

theorem rendered_append (fs gs : Filters) :
    (fs ++ gs).rendered = fs.rendered ++ gs.rendered :=
  List.filter_append ..

def conditionsText (fs : Filters) : String :=
  String.join (fs.rendered.map fun c =>
    " " ++ c.joiningWord ++ " " ++ c.written.sql)

theorem sql_written (keyword : String) (fs : Filters) :
    (fs.written keyword).sql = keyword ++ " 1=1" ++ fs.conditionsText := rfl

theorem conditionsText_append (fs gs : Filters) :
    (fs ++ gs).conditionsText = fs.conditionsText ++ gs.conditionsText := by
  simp only [conditionsText, rendered_append, List.map_append,
    String.join_append]

theorem written_append (keyword : String) (fs gs : Filters) :
    (fs ++ gs).written keyword =
      ⟨(fs.written keyword).sql ++ gs.conditionsText,
        (fs.written keyword).args ++ (gs.written keyword).args⟩ := by
  apply Statement.ext
  · simp only [sql_written, conditionsText_append, String.append_assoc]
  · simp only [written, rendered_append, List.flatMap_append]

end Filters

/-! ## Clauses -/

section

variable {wl : Whitelist} {fs gs : Filters}

/-- The first part that is refused by itself decides the error. -/
theorem whereClause_append_eq_error_iff {e : BuildError} :
    (whereClause wl (fs ++ gs)).outcome = .error e ↔
      (whereClause wl fs).outcome = .error e ∨
        (∃ a, (whereClause wl fs).outcome = .ok a) ∧
          (whereClause wl gs).outcome = .error e := by
  rw [(decidedBy_whereClause wl (fs ++ gs)).eq_error_iff,
    (decidedBy_whereClause wl fs).eq_error_iff,
    (decidedBy_whereClause wl fs).isOk_iff,
    (decidedBy_whereClause wl gs).eq_error_iff, Filters.checks_append,
    firstViolated_append_iff]

theorem whereClause_append_isOk_iff :
    (∃ s, (whereClause wl (fs ++ gs)).outcome = .ok s) ↔
      (∃ a, (whereClause wl fs).outcome = .ok a) ∧
        ∃ b, (whereClause wl gs).outcome = .ok b := by
  rw [(decidedBy_whereClause wl (fs ++ gs)).isOk_iff,
    (decidedBy_whereClause wl fs).isOk_iff,
    (decidedBy_whereClause wl gs).isOk_iff, Filters.checks_append,
    List.forall_mem_append]

theorem whereClause_append_eq_ok_iff {s : Statement} :
    (whereClause wl (fs ++ gs)).outcome = .ok s ↔
      ∃ a b rest, (whereClause wl fs).outcome = .ok a ∧
        (whereClause wl gs).outcome = .ok b ∧
        b.sql = "WHERE 1=1" ++ rest ∧
        s = ⟨a.sql ++ rest, a.args ++ b.args⟩ := by
  constructor
  · intro hs
    obtain ⟨⟨a, ha⟩, b, hb⟩ := whereClause_append_isOk_iff.mp ⟨s, hs⟩
    refine ⟨a, b, gs.conditionsText, ha, hb, ?_, ?_⟩
    · rw [whereClause_eq_written hb]
      exact gs.sql_written "WHERE"
    · rw [whereClause_eq_written hs, whereClause_eq_written ha,
        whereClause_eq_written hb]
      exact Filters.written_append "WHERE" fs gs
  · rintro ⟨a, b, rest, ha, hb, hrest, rfl⟩
    obtain ⟨s, hs⟩ := whereClause_append_isOk_iff.mpr ⟨⟨a, ha⟩, b, hb⟩
    have hconditions : rest = gs.conditionsText := by
      rw [whereClause_eq_written hb, Filters.sql_written] at hrest
      exact (String.append_right_inj _).mp hrest.symm
    rw [hs, whereClause_eq_written hs, whereClause_eq_written ha,
      whereClause_eq_written hb, hconditions, Filters.written_append]

end

/-- However a list of filters is built, its criteria are what the steps
contribute, one after the other.  Lists of filters form a monoid, and a clause
respects it: two lists in one are accepted when both of them are, and then the
conditions of the second one stand after those of the first; otherwise they are
refused as the first of them is which is refused by itself. -/
theorem filters_concatenate :
    (∀ c : Filters.Construction,
      c.build.criteria = c.contributions.flatten) ∧
    (∀ fs : Filters, .empty ++ fs = fs ∧ fs ++ .empty = fs) ∧
    (∀ fs gs hs : Filters, fs ++ gs ++ hs = fs ++ (gs ++ hs)) ∧
    ∀ (wl : Whitelist) (fs gs : Filters),
      (∀ e, (whereClause wl (fs ++ gs)).outcome = .error e ↔
        (whereClause wl fs).outcome = .error e ∨
          (∃ a, (whereClause wl fs).outcome = .ok a) ∧
            (whereClause wl gs).outcome = .error e) ∧
      ∀ s, (whereClause wl (fs ++ gs)).outcome = .ok s ↔
        ∃ a b rest, (whereClause wl fs).outcome = .ok a ∧
          (whereClause wl gs).outcome = .ok b ∧
          b.sql = "WHERE 1=1" ++ rest ∧
          s = ⟨a.sql ++ rest, a.args ++ b.args⟩ := by
  refine ⟨Filters.Construction.criteria_build, ?_, Filters.append_assoc, ?_⟩
  · intro fs
    exact ⟨fs.empty_append, fs.append_empty⟩
  · intro wl fs gs
    exact ⟨fun e => whereClause_append_eq_error_iff,
      fun s => whereClause_append_eq_ok_iff⟩

end GuardedSql
