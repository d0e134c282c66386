import GuardedSql.Filter
import GuardedSql.Proofs.WhiteSpace
import GuardedSql.SortOrder
import Mathlib.Data.List.Forall2

/-!
# The texts that are keywords

A text is read as an operator when its words are those of the keyword, letter by
letter and up to the case of ASCII letters: no two words are taken for one, and
no word is cut.  A text is read as a direction when, once trimmed, it is the
keyword in the same sense.  Every other text is refused, and the error repeats
it as it was given.
-/

namespace GuardedSql

namespace Text

/-! ## Letters up to case -/

/-- The first character is a capital ASCII letter and the second one is the
small letter that belongs to it. -/
def IsCapitalOf (c d : Char) : Prop :=
  'A'.toNat ≤ c.toNat ∧ c.toNat ≤ 'Z'.toNat ∧ d.toNat = c.toNat + 32

/-- Two characters are equal up to the case of ASCII letters. -/
def SameLetter (c d : Char) : Prop :=
  c = d ∨ IsCapitalOf c d ∨ IsCapitalOf d c

def SameText (s t : List Char) : Prop :=
  List.Forall₂ SameLetter s t

variable {c d : Char} {s t : List Char} {ws us : List (List Char)}

theorem toNat_toUpper (c : Char) :
    c.toUpper.toNat =
      if 97 ≤ c.toNat ∧ c.toNat ≤ 122 then c.toNat - 32 else c.toNat := by
  change (dite _ _ _ : Char).toNat = _
  have hsmall : ('a'.val ≤ c.val ∧ c.val ≤ 'z'.val) ↔
      97 ≤ c.toNat ∧ c.toNat ≤ 122 := by
    simp only [UInt32.le_iff_toNat_le, Char.toNat_val]
    rfl
  split_ifs with h hc hc
  · have hval : (c.val + ('A'.val - 'a'.val)).toNat =
        (c.toNat + (2 ^ 32 - 32)) % 2 ^ 32 := UInt32.toNat_add _ _
    rw [Char.toNat_mk, hval]
    omega
  · exact absurd (hsmall.mp h) hc
  · exact absurd (hsmall.mpr hc) h
  · rfl

theorem toUpper_eq_toUpper_iff : c.toUpper = d.toUpper ↔ SameLetter c d := by
  have hA : 'A'.toNat = 65 := rfl
  have hZ : 'Z'.toNat = 90 := rfl
  rw [← Char.toNat_inj, toNat_toUpper, toNat_toUpper, SameLetter,
    ← Char.toNat_inj, IsCapitalOf, IsCapitalOf, hA, hZ]
  split_ifs <;> omega

theorem upper_eq_upper_iff : upper s = upper t ↔ SameText s t := by
  rw [upper, upper, ← List.forall₂_eq_eq_eq, List.forall₂_map_left_iff,
    List.forall₂_map_right_iff]
  simp only [toUpper_eq_toUpper_iff]
  rfl

theorem isWhiteSpace_toUpper (c : Char) :
    isWhiteSpace c.toUpper = isWhiteSpace c := by
  have hupper := toNat_toUpper c
  split_ifs at hupper with hsmall
  · rw [isWhiteSpace_eq_false_of_visible (by omega) (by omega),
      isWhiteSpace_eq_false_of_visible (by omega) (by omega)]
  · rw [Char.toNat_inj.mp hupper]

theorem IsWord.upper (h : IsWord s) : IsWord (upper s) := by
  refine ⟨by simpa [Text.upper] using h.1, ?_⟩
  intro c hc
  obtain ⟨d, hd, rfl⟩ := List.mem_map.mp hc
  rw [isWhiteSpace_toUpper]
  exact h.2 d hd

/-! ## Words up to case -/

/-- Words with one space between each two neighbours are the words of the text
that they make. -/
theorem hasWords_intercalate (h : ∀ word ∈ ws, IsWord word) :
    HasWords ([' '].intercalate ws) ws := by
  induction ws with
  | nil => exact .nil isBlank_nil
  | cons word ws ih =>
      obtain ⟨hword, hlater⟩ := List.forall_mem_cons.mp h
      match ws, ih hlater with
      | [], hrest =>
          have hsingle := HasWords.word_append hword isBlank_nil.endsWord
            (.nil isBlank_nil)
          rw [List.append_nil] at hsingle
          rwa [List.intercalate_singleton]
      | next :: ws, hrest =>
          have hspace : isWhiteSpace ' ' = true := by decide
          have hend : EndsWord (' ' :: [' '].intercalate (next :: ws)) := by
            rintro c ⟨⟩
            exact hspace
          rw [List.intercalate_cons_cons, List.append_assoc]
          exact .word_append hword hend (hrest.cons_of_isWhiteSpace hspace)

theorem upper_intercalate (ws : List (List Char)) :
    upper ([' '].intercalate ws) = [' '].intercalate (ws.map upper) := by
  induction ws with
  | nil => rfl
  | cons word ws ih =>
      match ws, ih with
      | [], _ =>
          rw [List.map_singleton, List.intercalate_singleton,
            List.intercalate_singleton]
      | next :: ws, ih =>
          have hsplit : upper (word ++ [' '] ++ [' '].intercalate (next :: ws)) =
              upper word ++ [' '] ++ upper ([' '].intercalate (next :: ws)) := by
            rw [upper, List.map_append, List.map_append]
            rfl
          rw [List.intercalate_cons_cons, hsplit, ih]
          simp only [List.map_cons, List.intercalate_cons_cons]

end Text

/-! ## Operators -/

namespace Operator

open Text

variable {s t : String} {op : Operator} {ws us : List (List Char)}

theorem toList_normalize (s : String) :
    (normalize s).toList = [' '].intercalate ((words s.toList).map upper) := by
  rw [normalize, String.toList_ofList, upper_intercalate]

theorem words_normalize (s : String) :
    words (normalize s).toList = (words s.toList).map upper := by
  rw [toList_normalize]
  apply HasWords.words_eq
  apply hasWords_intercalate
  intro word hword
  obtain ⟨word, hmem, rfl⟩ := List.mem_map.mp hword
  exact ((hasWords_iff.mpr rfl).isWord hmem).upper

/-- Two texts are compared as their words are. -/
theorem normalize_eq_normalize_iff :
    normalize s = normalize t ↔
      List.Forall₂ SameText (words s.toList) (words t.toList) := by
  have hwords : normalize s = normalize t ↔
      (words s.toList).map upper = (words t.toList).map upper := by
    constructor
    · intro h
      rw [← words_normalize, h, words_normalize]
    · intro h
      rw [← String.toList_inj, toList_normalize, h, toList_normalize]
  rw [hwords, ← List.forall₂_eq_eq_eq, List.forall₂_map_left_iff,
    List.forall₂_map_right_iff]
  simp only [upper_eq_upper_iff]

theorem normalize_text (op : Operator) : normalize op.text = op.text := by
  cases op <;> decide +kernel

theorem parse?_eq_some_iff :
    parse? s = some op ↔ normalize s = normalize op.text := by
  rw [parse?, ofKeyword?_eq_some_iff, normalize_text]

theorem ofText_eq_ok_iff :
    ofText s = .ok op ↔
      List.Forall₂ SameText (words s.toList) (words op.text.toList) := by
  rw [← normalize_eq_normalize_iff, ← parse?_eq_some_iff, ofText]
  match parse? s with
  | none => simp
  | some op' => simp

theorem ofText_eq_ok_or_error (s : String) :
    (∃ op, ofText s = .ok op) ∨ ofText s = .error (.unknownOperator s) := by
  rw [ofText]
  match parse? s with
  | none => exact .inr rfl
  | some op => exact .inl ⟨op, rfl⟩

theorem length_words_text (op : Operator) :
    (words op.text.toList).length = if op = .orLike then 2 else 1 := by
  cases op <;> decide +kernel

end Operator

/-! ## Directions -/

namespace Direction

open Text

variable {s : String} {direction : Direction}

theorem ofText_eq_ok_iff :
    ofText s = .ok direction ↔
      SameText (trim s.toList) direction.text.toList := by
  rw [← upper_eq_upper_iff, ← parse?_eq_some_iff, ofText]
  match parse? s with
  | none => simp
  | some other => simp

theorem ofText_eq_ok_or_error (s : String) :
    (∃ direction, ofText s = .ok direction) ∨
      ofText s = .error (.unknownDirection s) := by
  rw [ofText]
  match parse? s with
  | none => exact .inr rfl
  | some direction => exact .inl ⟨direction, rfl⟩

end Direction

open Text

/-- A text is an operator when its words are those of the keyword up to the case
of ASCII letters.  Texts whose words agree up to this case are therefore the same
operator or none, whatever the white space around the words, and a text with two
words is `OR LIKE` or nothing.  A text is a direction when it is the keyword in
the same sense once it is trimmed.  All other texts are refused by an error that
repeats them. -/
theorem keywords_parsed_exactly (s : String) :
    ((∀ op, Operator.ofText s = .ok op ↔
        ∃ ws kws, HasWords s.toList ws ∧ HasWords op.text.toList kws ∧
          List.Forall₂ SameText ws kws) ∧
      ((∃ op, Operator.ofText s = .ok op) ∨
        Operator.ofText s = .error (.unknownOperator s)) ∧
      (∀ t ws us, HasWords s.toList ws → HasWords t.toList us →
        List.Forall₂ SameText ws us →
        ∀ op, Operator.ofText s = .ok op ↔ Operator.ofText t = .ok op) ∧
      ∀ op ws, Operator.ofText s = .ok op → HasWords s.toList ws →
        ws.length = if op = .orLike then 2 else 1) ∧
    (∀ direction, Direction.ofText s = .ok direction ↔
      ∃ t, IsTrimmed s.toList t ∧ SameText t direction.text.toList) ∧
    ((∃ direction, Direction.ofText s = .ok direction) ∨
      Direction.ofText s = .error (.unknownDirection s)) := by
  refine ⟨⟨?_, Operator.ofText_eq_ok_or_error s, ?_, ?_⟩, ?_,
    Direction.ofText_eq_ok_or_error s⟩
  · intro op
    rw [Operator.ofText_eq_ok_iff]
    constructor
    · intro h
      exact ⟨_, _, hasWords_iff.mpr rfl, hasWords_iff.mpr rfl, h⟩
    · rintro ⟨ws, kws, hws, hkws, h⟩
      rwa [hws.words_eq, hkws.words_eq]
  · intro t ws us hws hus h op
    have hnormal : Operator.normalize s = Operator.normalize t := by
      rwa [Operator.normalize_eq_normalize_iff, hws.words_eq, hus.words_eq]
    rw [Operator.ofText_eq_ok_iff, Operator.ofText_eq_ok_iff,
      ← Operator.normalize_eq_normalize_iff, hnormal,
      Operator.normalize_eq_normalize_iff]
  · intro op ws hop hws
    have hsame := (Operator.ofText_eq_ok_iff.mp hop).length_eq
    rw [hws.words_eq] at hsame
    rw [hsame, Operator.length_words_text]
  · intro direction
    rw [Direction.ofText_eq_ok_iff]
    constructor
    · intro h
      exact ⟨_, isTrimmed_trim _, h⟩
    · rintro ⟨t, ht, h⟩
      rwa [ht.trim_eq]

theorem keywords_parsed_exactly_mixed :
    Operator.ofText "\tor  \u3000Like" = .ok .orLike ∧
    Operator.ofText "> =" = .error (.unknownOperator "> =") ∧
    Direction.ofText " Desc\n" = .ok .descending := by
  refine ⟨?_, ?_, ?_⟩
  · have hwords :
        HasWords "\tor  \u3000Like".toList ["or".toList, "Like".toList] :=
      hasWords_iff.mpr (by decide +kernel)
    have hkeyword : HasWords "OR LIKE".toList ["OR".toList, "LIKE".toList] :=
      hasWords_iff.mpr (by decide +kernel)
    have hor : SameText "or".toList "OR".toList :=
      upper_eq_upper_iff.mp (by decide +kernel)
    have hlike : SameText "Like".toList "LIKE".toList :=
      upper_eq_upper_iff.mp (by decide +kernel)
    exact ((keywords_parsed_exactly _).1.1 .orLike).mpr
      ⟨_, _, hwords, hkeyword, .cons hor (.cons hlike .nil)⟩
  · have hwords : HasWords "> =".toList [">".toList, "=".toList] :=
      hasWords_iff.mpr (by decide +kernel)
    obtain ⟨⟨hop, hrefused, -, hlength⟩, -⟩ := keywords_parsed_exactly "> ="
    refine hrefused.resolve_left ?_
    rintro ⟨op, hparsed⟩
    have htwo := hlength op _ hparsed hwords
    have horLike : op = .orLike := by
      by_contra hne
      rw [if_neg hne] at htwo
      exact absurd htwo (by decide)
    subst horLike
    obtain ⟨ws, kws, hws, hkws, hsame⟩ := (hop .orLike).mp hparsed
    have hkeyword : HasWords Operator.orLike.text.toList
        ["OR".toList, "LIKE".toList] :=
      hasWords_iff.mpr (by decide +kernel)
    rw [← hws.words_eq, hwords.words_eq, ← hkws.words_eq, hkeyword.words_eq]
      at hsame
    have hlengths := (List.forall₂_cons.mp hsame).1.length_eq
    exact absurd hlengths (by decide)
  · have htrimmed : IsTrimmed " Desc\n".toList "Desc".toList :=
      isTrimmed_iff.mpr (by decide +kernel)
    have hdesc : SameText "Desc".toList "DESC".toList :=
      upper_eq_upper_iff.mp (by decide +kernel)
    exact ((keywords_parsed_exactly _).2.1 .descending).mpr
      ⟨_, htrimmed, hdesc⟩

end GuardedSql
