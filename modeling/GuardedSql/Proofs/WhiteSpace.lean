import GuardedSql.Text.WhiteSpace
import Mathlib.Data.List.TakeWhile

/-!
# Texts and the white space in them

The words of a text stand in it in their order, with white space only before,
between and after them, and with some of it between any two.  There is one list
of words of which this holds.  In the same way a trimmed text is what is left of
a text when white space is taken away at both ends until there is no more.
-/

namespace GuardedSql.Text

def IsBlank (s : List Char) : Prop :=
  ∀ c ∈ s, isWhiteSpace c = true

/-- A text with some characters, none of which is white space. -/
def IsWord (s : List Char) : Prop :=
  s ≠ [] ∧ ∀ c ∈ s, isWhiteSpace c = false

/-- A text that does not go on with a character of a word. -/
def EndsWord (s : List Char) : Prop :=
  ∀ c, s.head? = some c → isWhiteSpace c = true

/-- A text is made of some words in their order and of white space around
them. -/
inductive HasWords : List Char → List (List Char) → Prop
  | nil {gap : List Char} (hgap : IsBlank gap) : HasWords gap []
  | cons {gap word rest : List Char} {ws : List (List Char)}
      (hgap : IsBlank gap) (hword : IsWord word) (hend : EndsWord rest)
      (hrest : HasWords rest ws) :
      HasWords (gap ++ word ++ rest) (word :: ws)

/-- A text is what is left of another one when white space is taken away at both
ends. -/
def IsTrimmed (s t : List Char) : Prop :=
  (∃ before after, IsBlank before ∧ IsBlank after ∧
    s = before ++ t ++ after) ∧
  (∀ c, t.head? = some c → isWhiteSpace c = false) ∧
  ∀ c, t.getLast? = some c → isWhiteSpace c = false

/-- The visible ASCII characters are no white space. -/
theorem isWhiteSpace_eq_false_of_visible {c : Char} (hlow : 33 ≤ c.toNat)
    (hhigh : c.toNat ≤ 126) : isWhiteSpace c = false := by
  rw [← Bool.not_eq_true, isWhiteSpace]
  simp only [whiteSpaceRanges, List.any_cons, List.any_nil, Bool.or_false,
    Bool.or_eq_true, Bool.and_eq_true, decide_eq_true_eq]
  omega

theorem isBlank_nil : IsBlank [] :=
  fun _ hc => absurd hc List.not_mem_nil

theorem isBlank_cons {c : Char} {s : List Char} :
    IsBlank (c :: s) ↔ isWhiteSpace c = true ∧ IsBlank s :=
  List.forall_mem_cons

theorem IsBlank.endsWord {s : List Char} (h : IsBlank s) : EndsWord s := by
  intro c hc
  exact h c (List.mem_of_mem_head? hc)

/-! ## Words -/

section Words

variable {c : Char} {gap word rest s : List Char} {ws : List (List Char)}

theorem words_cons_of_isWhiteSpace (hc : isWhiteSpace c = true) :
    words (c :: s) = words s := by
  rw [words, List.splitOnP_cons_eq_if_modifyHead, if_pos hc]
  rfl

theorem words_append_of_isBlank (hgap : IsBlank gap) :
    words (gap ++ s) = words s := by
  induction gap with
  | nil => rfl
  | cons c gap ih =>
      obtain ⟨hc, hgap⟩ := isBlank_cons.mp hgap
      rw [List.cons_append, words_cons_of_isWhiteSpace hc, ih hgap]

theorem words_append_of_isWord (hword : IsWord word) (hend : EndsWord rest) :
    words (word ++ rest) = word :: words rest := by
  obtain ⟨hne, hsolid⟩ := hword
  have hkept : ∀ later : List (List Char),
      (word :: later).filter (fun word => !word.isEmpty) =
        word :: later.filter fun word => !word.isEmpty := by
    intro later
    simp [hne]
  match rest with
  | [] =>
      rw [List.append_nil, words, List.splitOnP_eq_singleton hsolid, hkept]
      rfl
  | c :: rest =>
      have hc : isWhiteSpace c = true := hend c rfl
      rw [words_cons_of_isWhiteSpace hc, words,
        List.splitOnP_append_cons_of_forall_mem hsolid c hc, hkept, words]

theorem HasWords.words_eq (h : HasWords s ws) : words s = ws := by
  induction h with
  | nil hgap =>
      have hnone := words_append_of_isBlank (s := []) hgap
      rwa [List.append_nil] at hnone
  | cons hgap hword hend _ ih =>
      rw [List.append_assoc, words_append_of_isBlank hgap,
        words_append_of_isWord hword hend, ih]

theorem HasWords.cons_of_isWhiteSpace (hc : isWhiteSpace c = true)
    (h : HasWords s ws) : HasWords (c :: s) ws := by
  rcases h with hgap | ⟨hgap, hword, hend, hrest⟩
  · exact .nil (isBlank_cons.mpr ⟨hc, hgap⟩)
  · exact .cons (isBlank_cons.mpr ⟨hc, hgap⟩) hword hend hrest

theorem HasWords.word_append (hword : IsWord word) (hend : EndsWord rest)
    (h : HasWords rest ws) : HasWords (word ++ rest) (word :: ws) :=
  .cons isBlank_nil hword hend h

/-- A character that is no white space starts a word of its own or belongs to
the word that follows. -/
theorem HasWords.exists_cons (hc : isWhiteSpace c = false)
    (h : HasWords s ws) : ∃ ws', HasWords (c :: s) ws' := by
  have hsingle : IsWord [c] :=
    ⟨List.cons_ne_nil c [], List.forall_mem_singleton.mpr hc⟩
  rcases h with hgap | @⟨gap, word, rest, ws, hgap, hword, hend, hrest⟩
  · exact ⟨_, .word_append hsingle hgap.endsWord (.nil hgap)⟩
  · match gap with
    | [] =>
        have hlonger : IsWord (c :: word) :=
          ⟨List.cons_ne_nil c word, List.forall_mem_cons.mpr ⟨hc, hword.2⟩⟩
        exact ⟨_, .word_append hlonger hend hrest⟩
    | d :: gap =>
        have hd : EndsWord (d :: gap ++ word ++ rest) := by
          intro e he
          obtain rfl : d = e := by simpa using he
          exact (isBlank_cons.mp hgap).1
        exact ⟨_, .word_append hsingle hd (.cons hgap hword hend hrest)⟩

theorem exists_hasWords (s : List Char) : ∃ ws, HasWords s ws := by
  induction s with
  | nil => exact ⟨[], .nil isBlank_nil⟩
  | cons c s ih =>
      obtain ⟨ws, hws⟩ := ih
      by_cases hc : isWhiteSpace c = true
      · exact ⟨ws, hws.cons_of_isWhiteSpace hc⟩
      · exact hws.exists_cons (Bool.not_eq_true _ ▸ hc)

theorem hasWords_iff : HasWords s ws ↔ words s = ws := by
  constructor
  · exact HasWords.words_eq
  · rintro rfl
    obtain ⟨ws, hws⟩ := exists_hasWords s
    rwa [hws.words_eq]

theorem HasWords.isWord (h : HasWords s ws) {word : List Char}
    (hword : word ∈ ws) : IsWord word := by
  induction h with
  | nil => exact absurd hword List.not_mem_nil
  | cons _ hfirst _ _ ih =>
      rcases List.mem_cons.mp hword with rfl | hlater
      · exact hfirst
      · exact ih hlater

end Words

/-! ## Trimming -/

section Trim

variable {before after s t : List Char}

theorem dropWhile_append_of_isBlank (h : IsBlank before) :
    (before ++ t).dropWhile isWhiteSpace = t.dropWhile isWhiteSpace :=
  List.dropWhile_append_of_pos h

theorem dropWhile_eq_self_of_head? {p : Char → Bool}
    (h : ∀ c, t.head? = some c → p c = false) : t.dropWhile p = t := by
  match t with
  | [] => rfl
  | c :: t => rw [List.dropWhile_cons_of_neg (by simpa using h c rfl)]

theorem head?_dropWhile_eq_false {p : Char → Bool} {c : Char}
    (h : (s.dropWhile p).head? = some c) : p c = false := by
  have hnot := List.head?_dropWhile_not p s
  rw [h] at hnot
  simpa using hnot

theorem IsTrimmed.trim_eq (h : IsTrimmed s t) : trim s = t := by
  obtain ⟨⟨before, after, hbefore, hafter, rfl⟩, hhead, hlast⟩ := h
  have hback : IsBlank after.reverse := by
    intro c hc
    exact hafter c (List.mem_reverse.mp hc)
  have hlast' : t.reverse.dropWhile isWhiteSpace = t.reverse := by
    apply dropWhile_eq_self_of_head?
    rwa [List.head?_reverse]
  match t with
  | [] =>
      have hall : IsBlank (before ++ [] ++ after) := by
        intro c hc
        rw [List.append_nil, List.mem_append] at hc
        exact hc.elim (hbefore c) (hafter c)
      rw [trim, List.dropWhile_eq_nil_iff.mpr hall]
      rfl
  | c :: t =>
      have hfront : (c :: t ++ after).dropWhile isWhiteSpace = c :: t ++ after :=
        dropWhile_eq_self_of_head? hhead
      rw [trim, List.append_assoc, dropWhile_append_of_isBlank hbefore, hfront,
        List.reverse_append, dropWhile_append_of_isBlank hback, hlast',
        List.reverse_reverse]

/-- White space is taken away at the end of what is left of the text after its
start, so what stays ends and starts with other characters. -/
theorem isTrimmed_trim (s : List Char) : IsTrimmed s (trim s) := by
  have hsplit : s.dropWhile isWhiteSpace =
      trim s ++
        ((s.dropWhile isWhiteSpace).reverse.takeWhile isWhiteSpace).reverse := by
    rw [trim, ← List.reverse_append, List.takeWhile_append_dropWhile,
      List.reverse_reverse]
  refine ⟨⟨s.takeWhile isWhiteSpace,
    ((s.dropWhile isWhiteSpace).reverse.takeWhile isWhiteSpace).reverse,
    ?_, ?_, ?_⟩, ?_, ?_⟩
  · intro c hc
    exact List.mem_takeWhile_imp hc
  · intro c hc
    exact List.mem_takeWhile_imp (List.mem_reverse.mp hc)
  · rw [List.append_assoc, ← hsplit, List.takeWhile_append_dropWhile]
  · intro c hc
    apply head?_dropWhile_eq_false (s := s)
    rw [hsplit, List.head?_append, hc]
    rfl
  · intro c hc
    rw [trim, List.getLast?_reverse] at hc
    exact head?_dropWhile_eq_false hc

theorem isTrimmed_iff : IsTrimmed s t ↔ trim s = t := by
  constructor
  · exact IsTrimmed.trim_eq
  · rintro rfl
    exact isTrimmed_trim s

end Trim

end GuardedSql.Text
