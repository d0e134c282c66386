/-!
# Cutting a text at a separator

`splitFirst sep s` is what stands before and after the first place where `sep`
occurs in `s`.
-/

namespace GuardedSql.Text

/-- The texts before and after the first occurrence of a separator, if it
occurs. -/
def splitFirst (sep : List Char) : List Char → Option (List Char × List Char)
  | [] => if sep.isEmpty then some ([], []) else none
  | c :: rest =>
    if sep.isPrefixOf (c :: rest) then some ([], (c :: rest).drop sep.length)
    else (splitFirst sep rest).map fun parts => (c :: parts.1, parts.2)

/-- The two parts and the separator between them are the text again. -/
theorem eq_append_of_splitFirst {sep s before after : List Char}
    (h : splitFirst sep s = some (before, after)) :
    s = before ++ sep ++ after := by
  induction s generalizing before with
  | nil =>
    simp only [splitFirst] at h
    split at h
    · rename_i hsep
      simp only [Option.some.injEq, Prod.mk.injEq] at h
      obtain ⟨rfl, rfl⟩ := h
      simpa using hsep
    · simp at h
  | cons c rest ih =>
    simp only [splitFirst] at h
    split at h
    · rename_i hsep
      simp only [Option.some.injEq, Prod.mk.injEq] at h
      obtain ⟨rfl, rfl⟩ := h
      obtain ⟨t, ht⟩ := List.isPrefixOf_iff_prefix.1 hsep
      rw [← ht]
      simp
    · obtain ⟨⟨b, a⟩, hba, heq⟩ := Option.map_eq_some_iff.1 h
      simp only [Prod.mk.injEq] at heq
      obtain ⟨rfl, rfl⟩ := heq
      rw [ih hba]
      simp

end GuardedSql.Text
