import GuardedSql.Statement

/-!
# The text and the arguments of joined clauses

Clauses are appended one after the other, each of them looking at what stands
before it.  Here the result is described as a whole: the text consists of the
texts that are not empty, with one space between neighbours, and the arguments
are those of all clauses in order.
-/

namespace GuardedSql

theorem Statement.spaced_of_ne_empty {before after : String}
    (hbefore : before ≠ "") (hafter : after ≠ "") :
    spaced before after = before ++ " " ++ after := by
  simp [spaced, hbefore, hafter]

namespace Text

theorem joinNonEmpty_empty_cons (sep : String) (items : List String) :
    joinNonEmpty sep ("" :: items) = joinNonEmpty sep items := by
  simp [joinNonEmpty]

theorem joinNonEmpty_cons_of_ne_empty {sep item : String} (h : item ≠ "")
    (items : List String) :
    joinNonEmpty sep (item :: items) =
      sep.intercalate (item :: items.filter fun other => !other.isEmpty) := by
  simp [joinNonEmpty, h]

theorem joinNonEmpty_eq_empty_iff {sep : String} {items : List String} :
    joinNonEmpty sep items = "" ↔ ∀ item ∈ items, item = "" := by
  induction items with
  | nil => simp [joinNonEmpty]
  | cons item rest ih =>
      by_cases hitem : item = ""
      · subst hitem
        rw [joinNonEmpty_empty_cons, ih]
        simp
      · have hjoined : joinNonEmpty sep (item :: rest) ≠ "" := by
          rw [joinNonEmpty_cons_of_ne_empty hitem]
          cases rest.filter fun other => !other.isEmpty with
          | nil => simpa using hitem
          | cons other others => simp [hitem]
        simp [hjoined, hitem]

/-- An item before others is a text before their text. -/
theorem joinNonEmpty_cons (item : String) (items : List String) :
    joinNonEmpty " " (item :: items) =
      Statement.spaced item (joinNonEmpty " " items) := by
  by_cases hitem : item = ""
  · rw [hitem, joinNonEmpty_empty_cons, Statement.empty_spaced]
  · rw [joinNonEmpty_cons_of_ne_empty hitem]
    by_cases hrest : joinNonEmpty " " items = ""
    · have hnone : (items.filter fun other => !other.isEmpty) = [] := by
        simpa using joinNonEmpty_eq_empty_iff.mp hrest
      rw [hrest, hnone, Statement.spaced_empty, String.intercalate_singleton]
    · have hsome : (items.filter fun other => !other.isEmpty) ≠ [] := by
        intro hnone
        exact hrest (by simp [joinNonEmpty, hnone])
      rw [String.intercalate_cons_of_ne_nil hsome,
        Statement.spaced_of_ne_empty hitem hrest, joinNonEmpty]

end Text

namespace Statement

theorem concat_nil : concat [] = empty := rfl

theorem sql_concat (clauses : List Statement) :
    (concat clauses).sql = Text.joinNonEmpty " " (clauses.map sql) := by
  induction clauses with
  | nil => rfl
  | cons clause rest ih =>
      rw [concat_cons, sql_append, ih, List.map_cons, Text.joinNonEmpty_cons]

theorem args_concat (clauses : List Statement) :
    (concat clauses).args = clauses.flatMap args := by
  induction clauses with
  | nil => rfl
  | cons clause rest ih =>
      rw [concat_cons, args_append, ih, List.flatMap_cons]

theorem concat_append (clauses clauses' : List Statement) :
    concat (clauses ++ clauses') = concat clauses ++ concat clauses' := by
  induction clauses with
  | nil => exact (empty_append _).symm
  | cons clause rest ih =>
      rw [List.cons_append, concat_cons, concat_cons, ih, append_assoc]

end Statement

end GuardedSql
