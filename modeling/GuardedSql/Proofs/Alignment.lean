import GuardedSql.Proofs.Results
import GuardedSql.Proofs.Rows
import Mathlib.Algebra.GroupWithZero.Nat

/-!
# Alignment of question marks and arguments

A driver binds the arguments of a statement to its question marks in order.
Every builder writes one question mark for each argument, and apart from these
only keywords and names.  A statement therefore has as many question marks as
arguments, plus those that stand in the names, which are listed below for each
builder.
-/

namespace GuardedSql

/-! ## Question marks in texts -/

namespace Text

def marks (s : String) : Nat :=
  s.toList.count '?'

def marksIn (texts : List String) : Nat :=
  (texts.map marks).sum

@[simp]
theorem marks_append (s t : String) : marks (s ++ t) = marks s + marks t := by
  simp [marks]

@[simp]
theorem marksIn_nil : marksIn [] = 0 := rfl

@[simp]
theorem marksIn_cons (s : String) (texts : List String) :
    marksIn (s :: texts) = marks s + marksIn texts := by
  simp [marksIn]

@[simp]
theorem marksIn_append (texts texts' : List String) :
    marksIn (texts ++ texts') = marksIn texts + marksIn texts' := by
  simp [marksIn]

theorem marks_eq_zero_iff {s : String} : marks s = 0 ↔ '?' ∉ s.toList :=
  List.count_eq_zero

theorem marksIn_eq_zero {texts : List String}
    (h : ∀ s ∈ texts, '?' ∉ s.toList) : marksIn texts = 0 := by
  unfold marksIn
  rw [List.sum_eq_zero_iff_forall_eq_nat]
  intro n hn
  obtain ⟨s, hs, rfl⟩ := List.mem_map.mp hn
  exact marks_eq_zero_iff.mpr (h s hs)

/-- A separator without question marks adds none to a joined list. -/
theorem marks_intercalate {sep : String} (hsep : marks sep = 0)
    (texts : List String) : marks (sep.intercalate texts) = marksIn texts := by
  induction texts with
  | nil => simp [marks]
  | cons s rest ih =>
      cases rest with
      | nil => simp
      | cons t rest =>
          rw [String.intercalate_cons_cons, marks_append, marks_append, hsep,
            Nat.add_zero, ih, marksIn_cons s]

theorem marks_commaSeparated (texts : List String) :
    marks (", ".intercalate texts) = marksIn texts :=
  marks_intercalate (by decide) texts

theorem marks_joinNonEmpty (texts : List String) :
    marks (joinNonEmpty ", " texts) = marksIn texts := by
  unfold joinNonEmpty
  rw [marks_commaSeparated]
  induction texts with
  | nil => rfl
  | cons s rest ih =>
      by_cases hs : s = ""
      · subst hs
        simpa [marks] using ih
      · simpa [hs] using ih

theorem marksIn_replicate (n : Nat) (s : String) :
    marksIn (List.replicate n s) = n * marks s := by
  simp [marksIn]

theorem marks_questionMarks (n : Nat) : marks (questionMarks n) = n := by
  unfold questionMarks
  rw [marks_commaSeparated, marksIn_replicate]
  exact Nat.mul_one n

theorem marks_stringJoin (texts : List String) :
    marks (String.join texts) = marksIn texts := by
  induction texts with
  | nil => rfl
  | cons s rest ih => rw [String.join_cons, marks_append, ih, marksIn_cons]

end Text

/-! ## Aligned statements -/

/-- Besides the question marks in the given names, a statement has one for
each of its arguments. -/
def Statement.Aligned (s : Statement) (names : List String) : Prop :=
  s.placeholders = s.args.length + Text.marksIn names

namespace Statement

open Text (marks marksIn)

theorem Aligned.of_marks {sql : String} {args : List Value}
    {names : List String} (h : marks sql = args.length + marksIn names) :
    Aligned ⟨sql, args⟩ names := h

theorem marks_spaced (a b : String) :
    marks (spaced a b) = marks a + marks b := by
  unfold spaced
  by_cases hb : b = ""
  · subst hb
    rfl
  · by_cases ha : a = ""
    · subst ha
      simp [hb, marks]
    · simp +ground [ha, hb]

theorem Aligned.append {s t : Statement} {names names' : List String}
    (hs : s.Aligned names) (ht : t.Aligned names') :
    (s ++ t).Aligned (names ++ names') := by
  change marks (spaced s.sql t.sql) =
    (s.args ++ t.args).length + marksIn (names ++ names')
  change marks s.sql = s.args.length + marksIn names at hs
  change marks t.sql = t.args.length + marksIn names' at ht
  rw [marks_spaced, hs, ht, List.length_append, Text.marksIn_append]
  omega

theorem Aligned.concat {clauses : List Statement} {names : List (List String)}
    (h : List.Forall₂ Aligned clauses names) :
    (concat clauses).Aligned names.flatten := by
  induction h with
  | nil => rfl
  | cons hclause _ ih =>
      rw [concat_cons, List.flatten_cons]
      exact hclause.append ih

theorem Aligned.ofText {sql : String} {names : List String}
    (h : marks sql = marksIn names) : (ofText sql).Aligned names :=
  h.trans (Nat.zero_add _).symm

/-- Only the number of question marks in the names counts. -/
theorem Aligned.of_marksIn_eq {s : Statement} {names names' : List String}
    (h : s.Aligned names) (heq : marksIn names = marksIn names') :
    s.Aligned names' := by
  unfold Aligned at h ⊢
  rw [h, heq]

/-- When no name contains a question mark, the arguments fit exactly. -/
theorem Aligned.placeholders_eq {s : Statement} {names : List String}
    (h : s.Aligned names) (hnames : ∀ name ∈ names, '?' ∉ name.toList) :
    s.placeholders = s.args.length := by
  unfold Aligned at h
  rw [h, Text.marksIn_eq_zero hnames, Nat.add_zero]

end Statement

/-! ## Conditions and predicates -/

/-- The columns that a criterion writes: those of its filters that are not
skipped. -/
def Criterion.names (c : Criterion) : List String :=
  (c.members.filter fun f => !f.isSkipped).map Filter.column

def Filters.names (fs : Filters) : List String :=
  fs.criteria.flatMap Criterion.names

theorem Operator.marks_text (op : Operator) : Text.marks op.text = 0 := by
  cases op with
  | _ => decide

theorem Filter.Yields.marks_text {f : Filter} {c : Condition}
    (h : f.Yields c) :
    Text.marks c.text = c.args.length + Text.marks f.column := by
  cases h with
  | @compare column op v _ =>
      change Text.marks (column ++ " " ++ op.text ++ " ?") =
        1 + Text.marks column
      simp +ground only [Text.marks_append, Operator.marks_text]
      omega
  | @like column _ v _ =>
      change Text.marks (column ++ " LIKE ?") = 1 + Text.marks column
      simp +ground only [Text.marks_append]
      omega
  | @oneOf column vs =>
      change Text.marks
        (column ++ " IN (" ++ Text.questionMarks vs.length ++ ")") =
          vs.length + Text.marks column
      simp +ground only [Text.marks_append, Text.marks_questionMarks]
      omega
  | @within column low high =>
      change Text.marks (column ++ " BETWEEN ? AND ?") = 2 + Text.marks column
      simp +ground only [Text.marks_append]
      omega

theorem Filter.Yields.marksIn_texts {fs : List Filter} {cs : List Condition}
    (h : List.Forall₂ Yields fs cs) :
    Text.marksIn (cs.map Condition.text) =
      (cs.flatMap Condition.args).length +
        Text.marksIn (fs.map Filter.column) := by
  induction h with
  | nil => rfl
  | cons hfc _ ih =>
      rw [List.map_cons, List.map_cons, Text.marksIn_cons, Text.marksIn_cons,
        List.flatMap_cons, List.length_append, hfc.marks_text, ih]
      omega

theorem Criterion.Yields.aligned {c : Criterion} {t : Term} (h : c.Yields t)
    (hskip : c.isSkipped = false) : t.statement.Aligned c.names := by
  cases h with
  | @filter f c hfc =>
      have hf : f.isSkipped = false := by
        simpa [isSkipped, members] using hskip
      have hnames : names (.filter f) = [f.column] := by
        simp [names, members, hf]
      have hkeyword : Text.marks f.operator.connective.text = 0 := by
        cases f.operator.connective with
        | _ => decide
      rw [hnames]
      apply Statement.Aligned.of_marks
      simp +ground only [Text.marks_append, hkeyword, hfc.marks_text,
        Text.marksIn_cons, Text.marksIn_nil]
      omega
  | @anyOf group cs hcs =>
      have htexts : Text.marks (" OR ".intercalate (cs.map Condition.text)) =
          Text.marksIn (cs.map Condition.text) :=
        Text.marks_intercalate (by decide) _
      apply Statement.Aligned.of_marks
      simp +ground only [Text.marks_append, htexts,
        Filter.Yields.marksIn_texts hcs, Nat.zero_add, Nat.add_zero]
      rfl

theorem Criterion.names_eq_nil_of_isSkipped {c : Criterion}
    (h : c.isSkipped = true) : c.names = [] := by
  unfold names
  rw [isSkipped_iff.mp h, List.map_nil]

theorem Filters.flatMap_names_rendered (fs : Filters) :
    fs.rendered.flatMap Criterion.names = fs.names := by
  unfold rendered names
  induction fs.criteria with
  | nil => rfl
  | cons c rest ih =>
      cases hskip : c.isSkipped with
      | true => simp [hskip, ih, Criterion.names_eq_nil_of_isSkipped hskip]
      | false => simp [hskip, ih]

theorem Predicate.aligned_clause {wl : Whitelist} {fs : Filters}
    {p : Predicate} (h : (ofFilters wl fs).outcome = .ok p) {keyword : String}
    (hkeyword : Text.marks (keyword ++ " 1=1") = 0) :
    (p.clause keyword).Aligned fs.names := by
  have hyields := forall₂_yields_of_ofFilters h
  have hkept : ∀ c ∈ fs.rendered, c.isSkipped = false := by
    intro c hc
    simpa using (List.mem_filter.mp hc).2
  have hterms : List.Forall₂ Statement.Aligned (p.map Term.statement)
      (fs.rendered.map Criterion.names) := by
    rw [List.forall₂_map_left_iff, List.forall₂_map_right_iff]
    have hboth := (List.forall₂_and_left _ _).mpr ⟨hkept, hyields⟩
    exact List.Forall₂.flip <| hboth.imp fun c t h => h.2.aligned h.1
  have hstart : (Statement.ofText (keyword ++ " 1=1")).Aligned [] :=
    .ofText hkeyword
  have hclause := Statement.Aligned.concat (.cons hstart hterms)
  rw [List.flatten_cons, List.nil_append, ← List.flatMap_def,
    Filters.flatMap_names_rendered] at hclause
  exact hclause

theorem aligned_whereClause {wl : Whitelist} {fs : Filters} {s : Statement}
    (h : (whereClause wl fs).outcome = .ok s) : s.Aligned fs.names := by
  obtain ⟨p, hp, rfl⟩ := whereClause_eq_ok h
  exact Predicate.aligned_clause hp (by decide)

theorem aligned_havingClause {wl : Whitelist} {fs : Filters} {s : Statement}
    (h : (havingClause wl fs).outcome = .ok s) : s.Aligned fs.names := by
  rcases havingClause_eq_ok h with ⟨hempty, rfl⟩ | ⟨p, hp, rfl⟩
  · unfold Filters.names
    rw [hempty]
    rfl
  · exact Predicate.aligned_clause hp (by decide)

/-! ## Queries -/

/-- The names that a join writes: its table, and the columns or the raw text
that it is made on. -/
def Join.names (j : Join) : List String :=
  j.table ::
    match j.on with
    | .raw text => [text]
    | .columns left right => [left, right]

/-- The column that an order writes, if it is an entry. -/
def orderNames (wl : Whitelist) : Option SortOrder → List String
  | none => []
  | some order => if order.column ∈ wl.columns then [order.column] else []

/-- The names in what both statements of a query range over. -/
def Select.names (q : Select) : List String :=
  q.table :: q.joins.flatMap Join.names ++ q.filters.names ++ q.groupBy ++
    q.having.names

theorem Join.marks_text (j : Join) :
    Text.marks j.text = Text.marksIn j.names := by
  have hkind : Text.marks j.kind.text = 0 := by
    cases j.kind with
    | _ => decide
  have hcondition : Text.marks (conditionText j.on) =
      Text.marksIn (match j.on with
        | .raw text => [text]
        | .columns left right => [left, right]) := by
    cases j.on with
    | raw text => rfl
    | columns left right =>
        simp +ground only [conditionText, Text.marks_append,
          Text.marksIn_cons, Text.marksIn_nil, Nat.add_zero]
  unfold text names
  simp +ground only [Text.marks_append, hkind, hcondition, Text.marksIn_cons]
  omega

theorem Join.marksIn_texts (joins : List Join) :
    Text.marksIn (joins.map text) = Text.marksIn (joins.flatMap names) := by
  induction joins with
  | nil => rfl
  | cons j rest ih =>
      rw [List.map_cons, Text.marksIn_cons, List.flatMap_cons,
        Text.marksIn_append, marks_text, ih]

theorem marks_orderText (wl : Whitelist) (order? : Option SortOrder) :
    Text.marks (orderText wl order?) = Text.marksIn (orderNames wl order?) := by
  cases order? with
  | none => rfl
  | some order =>
      have hdirection : Text.marks order.direction.text = 0 := by
        cases order.direction with
        | _ => decide
      unfold orderText orderNames
      dsimp only
      by_cases hcolumn : order.column ∈ wl.columns
      · rw [if_pos (Whitelist.hasColumn_iff.mpr hcolumn), if_pos hcolumn]
        simp +ground only [Text.marks_append, hdirection, Text.marksIn_cons,
          Text.marksIn_nil]
        omega
      · rw [if_neg (fun h => hcolumn (Whitelist.hasColumn_iff.mp h)),
          if_neg hcolumn]
        rfl

theorem Select.aligned_clauses {wl : Whitelist} {q : Select} {c : Clauses}
    (h : (q.clauses wl).outcome = .ok c) :
    Text.marks c.columns = Text.marksIn q.columns ∧
      c.base.Aligned
        (q.table :: q.joins.flatMap Join.names ++ q.filters.names) ∧
      Text.marks c.groupBy = Text.marksIn q.groupBy ∧
      c.having.Aligned q.having.names ∧
      Text.marks c.orderBy = Text.marksIn (orderNames wl q.orderBy) ∧
      c.window.Aligned [] := by
  obtain ⟨conditions, having, hconditions, hhaving, rfl⟩ := clauses_eq_ok h
  refine ⟨?_, ?_, ?_, aligned_havingClause hhaving, marks_orderText _ _,
    .of_marks rfl⟩
  · dsimp only
    split
    · rename_i hempty
      rw [List.isEmpty_iff.mp hempty]
      decide
    · exact Text.marks_commaSeparated _
  · have hfrom : (Statement.ofText ("FROM " ++ q.table)).Aligned [q.table] := by
      apply Statement.Aligned.ofText
      simp +ground only [Text.marks_append, Text.marksIn_cons,
        Text.marksIn_nil]
      omega
    have hjoins : (Statement.ofText
        (" ".intercalate (q.joins.map Join.text))).Aligned
          (q.joins.flatMap Join.names) := by
      apply Statement.Aligned.ofText
      rw [Text.marks_intercalate (by decide), Join.marksIn_texts]
    have hbase := Statement.Aligned.concat <| .cons hfrom <| .cons hjoins <|
      .cons (aligned_whereClause hconditions) .nil
    simpa using hbase
  · dsimp only
    split
    · rename_i hempty
      rw [List.isEmpty_iff.mp hempty]
      rfl
    · simp +ground only [Text.marks_append, Text.marks_joinNonEmpty,
        Nat.zero_add]

theorem Select.aligned_data {wl : Whitelist} {q : Select} {c : Clauses}
    (h : (q.clauses wl).outcome = .ok c) :
    c.data.Aligned (q.columns ++ q.names ++ orderNames wl q.orderBy) := by
  obtain ⟨hcolumns, hbase, hgroupBy, hhaving, horderBy, hwindow⟩ :=
    aligned_clauses h
  have hselect : (Statement.ofText ("SELECT " ++ c.columns)).Aligned
      q.columns := by
    apply Statement.Aligned.ofText
    simp +ground only [Text.marks_append, hcolumns, Nat.zero_add]
  have hdata := Statement.Aligned.concat <| .cons hselect <| .cons hbase <|
    .cons (.ofText hgroupBy) <| .cons hhaving <|
    .cons (.ofText horderBy) <| .cons hwindow .nil
  apply hdata.of_marksIn_eq
  simp [names]

/-- A count without a subquery has lost no name, since an empty grouping and
an empty condition on groups contain none with a question mark. -/
theorem Select.aligned_count {wl : Whitelist} {q : Select} {c : Clauses}
    (h : (q.clauses wl).outcome = .ok c) : c.count.Aligned q.names := by
  obtain ⟨-, hbase, hgroupBy, hhaving, -, -⟩ := aligned_clauses h
  unfold Clauses.count
  split
  · rename_i hempty
    rw [Bool.and_eq_true, String.isEmpty_iff, String.isEmpty_iff] at hempty
    obtain ⟨hgroup, hcondition⟩ := hempty
    have hgroupMarks : Text.marksIn q.groupBy = 0 := by
      rw [← hgroupBy, hgroup]
      rfl
    have hhavingMarks : Text.marksIn q.having.names = 0 := by
      change Text.marks c.having.sql = _ at hhaving
      rw [hcondition] at hhaving
      exact (Nat.add_eq_zero_iff.mp hhaving.symm).2
    have htotal : (Statement.ofText "SELECT COUNT(1) AS total").Aligned [] :=
      .ofText (by decide)
    have hcount := Statement.Aligned.concat <| .cons htotal <|
      .cons hbase .nil
    apply hcount.of_marksIn_eq
    simp [names, hgroupMarks, hhavingMarks]
  · have hone : (Statement.ofText "SELECT 1").Aligned [] :=
      .ofText (by decide)
    have hgroups := Statement.Aligned.concat <| .cons hone <| .cons hbase <|
      .cons (.ofText hgroupBy) <| .cons hhaving .nil
    have hnames : [[], q.table :: q.joins.flatMap Join.names ++
        q.filters.names, q.groupBy, q.having.names].flatten = q.names := by
      simp [names]
    rw [hnames] at hgroups
    apply Statement.Aligned.of_marks
    simp +ground only [Text.marks_append, Nat.zero_add, Nat.add_zero]
    exact hgroups

theorem Select.aligned_build {wl : Whitelist} {q : Select}
    {s : Select.Statements} (h : (q.build wl).outcome = .ok s) :
    s.data.Aligned (q.columns ++ q.names ++ orderNames wl q.orderBy) ∧
      s.count.Aligned q.names := by
  obtain ⟨c, hc, rfl⟩ := build_eq_ok h
  exact ⟨aligned_data hc, aligned_count hc⟩

/-! ## Insertions -/

/-- The columns that replace their values on a duplicate key: those asked for
that are entries and inserted. -/
def Insert.replaced (wl : Whitelist) (columns onDuplicate : List String) :
    List String :=
  onDuplicate.filter fun c => decide (c ∈ wl.columns ∧ c ∈ columns)

/-- The names that an insertion writes.  Its columns are those of the first
row, and a column that is replaced is assigned from itself. -/
def Insert.names (wl : Whitelist) (table : String)
    (onDuplicate : List String) : List Record → List String
  | [] => []
  | first :: _ =>
    let columns := columnsOf wl first
    table :: columns ++
      (replaced wl columns onDuplicate).flatMap fun c => [c, c]

theorem Insert.marks_replacement (wl : Whitelist)
    (columns onDuplicate : List String) :
    Text.marks (replacement wl columns onDuplicate) =
      Text.marksIn
        ((replaced wl columns onDuplicate).flatMap fun c => [c, c]) := by
  have hfilter : (onDuplicate.filter fun c =>
      wl.hasColumn c && columns.contains c) =
        replaced wl columns onDuplicate := by
    unfold replaced
    congr 1
    funext c
    rw [Bool.eq_iff_iff]
    simp [Whitelist.hasColumn_iff]
  have hassignments (cs : List String) :
      Text.marksIn (cs.map fun c => c ++ " = VALUES(" ++ c ++ ")") =
        Text.marksIn (cs.flatMap fun c => [c, c]) := by
    induction cs with
    | nil => rfl
    | cons c rest ih =>
        simp +ground only [List.map_cons, Text.marksIn_cons,
          Text.marks_append, ih, List.flatMap_cons, Text.marksIn_append,
          Text.marksIn_nil]
        omega
  unfold replacement
  rw [hfilter]
  dsimp only
  split
  · rename_i hempty
    rw [List.isEmpty_iff.mp hempty]
    rfl
  · simp +ground only [Text.marks_append, Text.marks_commaSeparated,
      hassignments, Nat.zero_add]

theorem Insert.marks_text (wl : Whitelist) (table : String)
    (columns onDuplicate : List String) (rows : Nat) :
    Text.marks (text wl table columns onDuplicate rows) =
      rows * columns.length + Text.marksIn (table :: columns ++
        (replaced wl columns onDuplicate).flatMap fun c => [c, c]) := by
  have hgroup : Text.marks
      ("(" ++ Text.questionMarks columns.length ++ ")") = columns.length := by
    simp +ground only [Text.marks_append, Text.marks_questionMarks,
      Nat.zero_add, Nat.add_zero]
  have hgroups : Text.marks (", ".intercalate (List.replicate rows
      ("(" ++ Text.questionMarks columns.length ++ ")"))) =
        rows * columns.length := by
    rw [Text.marks_commaSeparated, Text.marksIn_replicate, hgroup]
  unfold text
  simp +ground only [Text.marks_append, Text.marks_joinNonEmpty, hgroups,
    marks_replacement, List.cons_append, Text.marksIn_cons,
    Text.marksIn_append]
  omega

theorem aligned_insertRows {wl : Whitelist} {table : String}
    {rows : List Record} {onDuplicate : List String} {s : Statement}
    (h : (insertRows wl table rows onDuplicate).outcome = .ok s) :
    s.Aligned (Insert.names wl table onDuplicate rows) := by
  obtain ⟨first, rest, hrows, hfits, rfl⟩ := insertRows_eq_ok h
  apply Statement.Aligned.of_marks
  rw [Insert.marks_text, Insert.length_flatMap_valuesOf hfits, hrows]
  rfl

/-! ## Updates and deletions -/

/-- A comparison or an assignment for each key writes one question mark for
each of them, whatever keywords stand around the keys. -/
theorem marksIn_map_key (before after : String)
    (hbefore : Text.marks before = 0) (hafter : Text.marks after = 1)
    (keys : List String) :
    Text.marksIn (keys.map fun c => before ++ c ++ after) =
      keys.length + Text.marksIn keys := by
  induction keys with
  | nil => rfl
  | cons c rest ih =>
      simp only [List.map_cons, Text.marksIn_cons, Text.marks_append, hbefore,
        hafter, ih, List.length_cons]
      omega

theorem aligned_equalityClause {wl : Whitelist} {conditions : Record}
    {s : Statement} (h : (equalityClause wl conditions).outcome = .ok s) :
    s.Aligned conditions.keys := by
  have hconditions := marksIn_map_key " AND " " = ?" (by decide) (by decide)
    conditions.keys
  rw [equalityClause_eq_ok h]
  apply Statement.Aligned.of_marks
  simp +ground only [Text.marks_append, Text.marks_stringJoin, hconditions,
    Record.length_values, Nat.zero_add]

theorem aligned_update {wl : Whitelist} {table : String}
    {data conditions : Record} {s : Statement}
    (h : (update wl table data conditions).outcome = .ok s) :
    s.Aligned (table :: data.keys ++ conditions.keys) := by
  obtain ⟨matching, hmatching, rfl⟩ := update_eq_ok h
  refine Statement.Aligned.append ?_ (aligned_equalityClause hmatching)
  have hassignments : Text.marksIn (data.keys.map fun c => c ++ " = ?") =
      data.keys.length + Text.marksIn data.keys := by
    have hkeys := marksIn_map_key "" " = ?" (by decide) (by decide)
      data.keys
    simpa only [String.empty_append] using hkeys
  apply Statement.Aligned.of_marks
  simp +ground only [Text.marks_append, Text.marks_commaSeparated,
    hassignments, Record.length_values, Text.marksIn_cons]
  omega

theorem aligned_delete {wl : Whitelist} {table : String} {conditions : Record}
    {s : Statement} (h : (delete wl table conditions).outcome = .ok s) :
    s.Aligned (table :: conditions.keys) := by
  obtain ⟨matching, hmatching, rfl⟩ := delete_eq_ok h
  have htable : (Statement.ofText ("DELETE FROM " ++ table)).Aligned
      [table] := by
    apply Statement.Aligned.ofText
    simp +ground only [Text.marks_append, Text.marksIn_cons, Text.marksIn_nil]
    omega
  exact htable.append (aligned_equalityClause hmatching)

/-! ## All builders -/

/-- Every statement and every clause that a builder yields has one question
mark for each argument, besides those in the names that it writes.  When these
have none, arguments and question marks are equally many. -/
theorem placeholders_aligned (wl : Whitelist) :
    (∀ (fs : Filters) (s : Statement),
      (whereClause wl fs).outcome = .ok s → s.Aligned fs.names) ∧
    (∀ (fs : Filters) (s : Statement),
      (havingClause wl fs).outcome = .ok s → s.Aligned fs.names) ∧
    (∀ (q : Select) (s : Select.Statements), (q.build wl).outcome = .ok s →
      s.data.Aligned (q.columns ++ q.names ++ orderNames wl q.orderBy) ∧
        s.count.Aligned q.names) ∧
    (∀ (table : String) (row : Record) (onDuplicate : List String)
      (s : Statement), (insertRow wl table row onDuplicate).outcome = .ok s →
      s.Aligned (Insert.names wl table onDuplicate [row])) ∧
    (∀ (table : String) (rows : List Record) (onDuplicate : List String)
      (s : Statement), (insertRows wl table rows onDuplicate).outcome = .ok s →
      s.Aligned (Insert.names wl table onDuplicate rows)) ∧
    (∀ (table : String) (data conditions : Record) (s : Statement),
      (update wl table data conditions).outcome = .ok s →
      s.Aligned (table :: data.keys ++ conditions.keys)) ∧
    (∀ (table : String) (conditions : Record) (s : Statement),
      (delete wl table conditions).outcome = .ok s →
      s.Aligned (table :: conditions.keys)) ∧
    (∀ (s : Statement) (names : List String), s.Aligned names →
      (∀ name ∈ names, '?' ∉ name.toList) →
      s.placeholders = s.args.length) := by
  refine ⟨?_, ?_, ?_, ?_, ?_, ?_, ?_, ?_⟩
  · intro fs s h
    exact aligned_whereClause h
  · intro fs s h
    exact aligned_havingClause h
  · intro q s h
    exact Select.aligned_build h
  · intro table row onDuplicate s h
    exact aligned_insertRows h
  · intro table rows onDuplicate s h
    exact aligned_insertRows h
  · intro table data conditions s h
    exact aligned_update h
  · intro table conditions s h
    exact aligned_delete h
  · intro s names h hnames
    exact h.placeholders_eq hnames

/-- One of the columns contains a question mark.  The skipped filter does not
write it, the other clauses do. -/
theorem placeholders_aligned_question_column :
    let wl := Whitelist.ofLists ["t"] ["id", "ok?"]
    let blank : Filter := ⟨"ok?", .equal, .absent⟩
    let asked : Filter := ⟨"ok?", .inList, .list [.int 1, .int 2]⟩
    let fs := Filters.ofList [blank, asked]
    let q : Select :=
      { table := "t", columns := ["ok? AS ok"], filters := fs
        groupBy := ["id"], having := fs, orderBy := some ⟨"ok?", .ascending⟩ }
    let row : Record := .ofList [("ok?", .int 1), ("id", .int 2)]
    (∃ s, (whereClause wl fs).outcome = .ok s ∧ s.Aligned ["ok?"]) ∧
    (∃ s, (havingClause wl fs).outcome = .ok s ∧ s.Aligned ["ok?"]) ∧
    (∃ s, (q.build wl).outcome = .ok s ∧
      s.data.Aligned ["ok? AS ok", "t", "ok?", "id", "ok?", "ok?"] ∧
      s.count.Aligned ["t", "ok?", "id", "ok?"]) ∧
    (∃ s, (insertRow wl "t" row ["ok?"]).outcome = .ok s ∧
      s.Aligned ["t", "ok?", "id", "ok?", "ok?"]) ∧
    (∃ s, (insertRows wl "t" [row, row] []).outcome = .ok s ∧
      s.Aligned ["t", "ok?", "id"]) ∧
    (∃ s, (update wl "t" row row).outcome = .ok s ∧
      s.Aligned ["t", "ok?", "id", "ok?", "id"]) ∧
    (∃ s, (delete wl "t" row).outcome = .ok s ∧
      s.Aligned ["t", "ok?", "id"]) ∧
    (∃ s, (delete wl "t" (.ofList [("id", .int 2)])).outcome = .ok s ∧
      s.Aligned ["t", "id"] ∧ (∀ name ∈ ["t", "id"], '?' ∉ name.toList) ∧
      s.placeholders = s.args.length) := by
  intro wl blank asked fs q row
  obtain ⟨hwhere, hhaving, hselect, hinsertRow, hinsertRows, hupdate, hdelete,
    hexact⟩ := placeholders_aligned wl
  have hid := hdelete "t" (.ofList [("id", .int 2)]) _ rfl
  refine ⟨⟨_, rfl, hwhere fs _ rfl⟩, ⟨_, rfl, hhaving fs _ rfl⟩,
    ⟨_, rfl, hselect q _ rfl⟩, ⟨_, rfl, hinsertRow "t" row ["ok?"] _ rfl⟩,
    ⟨_, rfl, hinsertRows "t" [row, row] [] _ rfl⟩,
    ⟨_, rfl, hupdate "t" row row _ rfl⟩, ⟨_, rfl, hdelete "t" row _ rfl⟩,
    ⟨_, rfl, hid, ?_, ?_⟩⟩
  · decide
  · exact hexact _ _ hid (by decide)

end GuardedSql
