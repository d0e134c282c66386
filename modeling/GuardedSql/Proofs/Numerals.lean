import GuardedSql.Json.Basic
import Mathlib.Data.List.TakeWhile

/-!
# The texts of numerals

A numeral is written as a sign, the digits of its whole part and a rest that
does not go on with a digit.  The rest is empty exactly for an integral numeral,
so that a text of digits only is the numeral of a natural number, and this is
the number that the digits write.  As a JSON text of its own a numeral means its
value.
-/

namespace GuardedSql.Decimal

/-- A character that can stand in a numeral. -/
def IsNumeralChar (c : Char) : Prop :=
  c.isDigit = true ∨ c ∈ ['+', '-', '.', 'e', 'E']

instance : DecidablePred IsNumeralChar := fun c =>
  inferInstanceAs (Decidable (c.isDigit = true ∨ _))

section Digits

variable {x : List Char} {m : Nat}

theorem readDigits?_eq_some_iff :
    readDigits? x = some m ↔
      x ≠ [] ∧ (∀ c ∈ x, c.isDigit = true) ∧ valueOfDigits x = m := by
  simp [readDigits?, and_assoc]

theorem readDigits?_eq_none_of_mem {c : Char} (hc : c ∈ x)
    (hdigit : c.isDigit = false) : readDigits? x = none := by
  rw [Option.eq_none_iff_forall_ne_some]
  intro m hm
  have hall := (readDigits?_eq_some_iff.mp hm).2.1 c hc
  rw [hdigit] at hall
  exact absurd hall Bool.false_ne_true

theorem isNumeralChar_of_readDigits? (h : readDigits? x = some m) :
    ∀ c ∈ x, IsNumeralChar c := by
  intro c hc
  exact .inl ((readDigits?_eq_some_iff.mp h).2.1 c hc)

theorem readDigits?_repr (m : Nat) : readDigits? m.repr.toList = some m := by
  have hvalue : Nat.ofDigitChars 10 (Nat.toDigits 10 m) 0 = m :=
    Nat.ofDigitChars_ten_toDigits
  rw [Nat.ofDigitChars_eq_foldl] at hvalue
  rw [Nat.repr, String.toList_ofList, readDigits?_eq_some_iff]
  refine ⟨Nat.toDigits_ne_nil, ?_, hvalue⟩
  exact fun c hc => Nat.isDigit_of_mem_toDigits (by decide) (by decide) hc

end Digits

namespace Numeral

variable {n n' : Numeral} {x tail : List Char}

/-- A text can follow the whole part of a numeral: it goes on with no digit, and
it is empty exactly for an integral numeral. -/
structure IsRest (tail : List Char) (n : Numeral) : Prop where
  chars : ∀ c ∈ tail, IsNumeralChar c
  start : ∀ c, tail.head? = some c → c.isDigit = false
  integral_iff : tail = [] ↔ n.fraction = [] ∧ n.exponent = none

/-- A rest that follows the sign and the whole part of a numeral completes
it. -/
structure Completes (tail : List Char) (n n' : Numeral) : Prop extends
    IsRest tail n' where
  negative_eq : n'.negative = n.negative
  whole_eq : n'.whole = n.whole

/-- A text writes a numeral: its sign, its whole part and a rest. -/
structure Writes (x tail : List Char) (n : Numeral) : Prop extends
    IsRest tail n where
  text_eq : x = (if n.negative then ['-'] else []) ++ n.whole ++ tail
  whole_ne : n.whole ≠ []
  whole_digits : ∀ c ∈ n.whole, c.isDigit = true

theorem isNumeralChar_of_readExponent? {e : Int}
    (h : readExponent? tail = some e) : ∀ c ∈ tail, IsNumeralChar c := by
  unfold readExponent? at h
  split at h
  · obtain ⟨m, hm, -⟩ := Option.map_eq_some_iff.mp h
    rw [List.forall_mem_cons]
    exact ⟨.inr (by decide), isNumeralChar_of_readDigits? hm⟩
  · obtain ⟨m, hm, -⟩ := Option.map_eq_some_iff.mp h
    rw [List.forall_mem_cons]
    exact ⟨.inr (by decide), isNumeralChar_of_readDigits? hm⟩
  · obtain ⟨m, hm, -⟩ := Option.map_eq_some_iff.mp h
    exact isNumeralChar_of_readDigits? hm

/-- Nothing follows the fraction of a numeral, or the mark of an exponent and
the exponent. -/
theorem readTail?_eq_some (h : readTail? n tail = some n') :
    (tail = [] ∧ n' = n) ∨
      ∃ c rest e, tail = c :: rest ∧ (c = 'e' ∨ c = 'E') ∧
        (∀ d ∈ rest, IsNumeralChar d) ∧
        n' = { n with exponent := some e } := by
  match tail with
  | [] =>
      obtain rfl : n = n' := by simpa [readTail?] using h
      exact .inl ⟨rfl, rfl⟩
  | c :: rest =>
      rw [readTail?] at h
      split_ifs at h with hc
      obtain ⟨e, he, rfl⟩ := Option.map_eq_some_iff.mp h
      exact .inr ⟨c, rest, e, rfl, hc, isNumeralChar_of_readExponent? he, rfl⟩

theorem isNumeralChar_of_readTail? (h : readTail? n tail = some n') :
    ∀ c ∈ tail, IsNumeralChar c := by
  rcases readTail?_eq_some h with ⟨rfl, -⟩ | ⟨c, rest, e, rfl, hc, hrest, -⟩
  · exact fun c hc => absurd hc List.not_mem_nil
  · rw [List.forall_mem_cons]
    refine ⟨.inr ?_, hrest⟩
    rcases hc with rfl | rfl <;> decide

theorem completes_of_readTail? (hf : n.fraction = []) (he : n.exponent = none)
    (h : readTail? n tail = some n') : Completes tail n n' := by
  have hchars := isNumeralChar_of_readTail? h
  rcases readTail?_eq_some h with ⟨rfl, rfl⟩ | ⟨c, rest, e, rfl, hc, -, rfl⟩
  · exact ⟨⟨hchars, nofun, by simp [hf, he]⟩, rfl, rfl⟩
  · refine ⟨⟨hchars, ?_, by simp⟩, rfl, rfl⟩
    rintro d ⟨⟩
    rcases hc with rfl | rfl <;> decide

theorem completes_of_readFraction? (hf : n.fraction = [])
    (he : n.exponent = none) (h : readFraction? n tail = some n') :
    Completes tail n n' := by
  unfold readFraction? at h
  split at h
  case h_2 => exact completes_of_readTail? hf he h
  case h_1 rest =>
    simp only [List.isEmpty_iff] at h
    split_ifs at h with hempty
    have hdigits : ∀ c ∈ rest.takeWhile Char.isDigit, IsNumeralChar c :=
      fun c hc => .inl (List.mem_takeWhile_imp hc)
    have hafter := isNumeralChar_of_readTail? h
    have hrest : ∀ c ∈ rest, IsNumeralChar c := by
      intro c hc
      rw [← rest.takeWhile_append_dropWhile (p := Char.isDigit)] at hc
      exact (List.mem_append.mp hc).elim (hdigits c) (hafter c)
    have hchars : ∀ c ∈ '.' :: rest, IsNumeralChar c :=
      List.forall_mem_cons.mpr ⟨.inr (by decide), hrest⟩
    have hstart : ∀ c, ('.' :: rest).head? = some c → c.isDigit = false := by
      rintro c ⟨⟩
      decide
    rcases readTail?_eq_some h with ⟨-, rfl⟩ | ⟨c, after, e, -, -, -, rfl⟩
    · exact ⟨⟨hchars, hstart, by simp [hempty]⟩, rfl, rfl⟩
    · exact ⟨⟨hchars, hstart, by simp⟩, rfl, rfl⟩

theorem exists_writes_of_readUnsigned? {negative : Bool}
    (h : readUnsigned? negative x = some n) :
    ∃ tail, Writes ((if negative then ['-'] else []) ++ x) tail n := by
  unfold readUnsigned? at h
  simp only at h
  split_ifs at h with hwhole
  have hrest := completes_of_readFraction? rfl rfl h
  have hdigits : n.whole = x.takeWhile Char.isDigit := hrest.whole_eq
  refine ⟨x.dropWhile Char.isDigit, hrest.toIsRest, ?_, ?_, ?_⟩
  · rw [hrest.negative_eq, hdigits, List.append_assoc,
      List.takeWhile_append_dropWhile]
  · rw [hdigits]
    intro hnil
    rw [hnil] at hwhole
    exact absurd hwhole (by decide)
  · rw [hdigits]
    exact fun c hc => List.mem_takeWhile_imp hc

theorem exists_writes_of_parse? (h : parse? x = some n) :
    ∃ tail, Writes x tail n := by
  unfold parse? at h
  split at h
  · exact exists_writes_of_readUnsigned? h
  · exact exists_writes_of_readUnsigned? h

theorem Writes.isNumeralChar (h : Writes x tail n) :
    ∀ c ∈ x, IsNumeralChar c := by
  intro c hc
  rw [h.text_eq, List.append_assoc, List.mem_append, List.mem_append] at hc
  rcases hc with hsign | hwhole | htail
  · split_ifs at hsign with hn
    · obtain rfl := List.mem_singleton.mp hsign
      exact .inr (by decide)
    · exact absurd hsign List.not_mem_nil
  · exact .inl (h.whole_digits c hwhole)
  · exact h.chars c htail

theorem Writes.ne_nil (h : Writes x tail n) : x ≠ [] := by
  rw [h.text_eq]
  simp [h.whole_ne]

theorem Writes.ne_plus_cons (h : Writes x tail n) (rest : List Char) :
    x ≠ '+' :: rest := by
  rintro rfl
  have htext := h.text_eq
  split_ifs at htext
  · exact absurd htext (by simp)
  · match hwhole : n.whole, h.whole_ne with
    | c :: digits, _ =>
        rw [hwhole] at htext
        have hplus : '+' = c := (List.cons.inj htext).1
        have hdigit := h.whole_digits c (by simp [hwhole])
        rw [← hplus] at hdigit
        exact absurd hdigit (by decide)

/-- The digits of a text are a natural number if they are all that a numeral
has. -/
theorem Writes.readDigits?_eq (h : Writes x tail n) :
    readDigits? x = if n.negative then none else n.integer?.map Int.toNat := by
  have htext := h.text_eq
  split_ifs at htext ⊢ with hsign
  · have hminus : '-' ∈ x := by simp [htext]
    exact readDigits?_eq_none_of_mem hminus (by decide)
  · match tail, h.integral_iff, h.start with
    | [], hintegral, _ =>
        obtain ⟨hf, he⟩ := hintegral.mp rfl
        have hwhole : x = n.whole := by simpa using htext
        have hinteger :
            n.integer? = some (Int.ofNat (valueOfDigits n.whole)) := by
          simp [integer?, hf, he, hsign]
        rw [hinteger, hwhole, readDigits?_eq_some_iff.mpr
          ⟨h.whole_ne, h.whole_digits, rfl⟩]
        rfl
    | c :: rest, hintegral, hstart =>
        have hmem : c ∈ x := by simp [htext]
        have hrest : ¬(n.fraction = [] ∧ n.exponent = none) := fun hn =>
          absurd (hintegral.mpr hn) (List.cons_ne_nil c rest)
        have hinteger : n.integer? = none := by
          rw [integer?, if_neg (by simpa using hrest)]
        rw [hinteger, readDigits?_eq_none_of_mem hmem (hstart c rfl)]
        rfl

theorem integer?_neg_iff {k : Int} (h : n.integer? = some k) :
    k < 0 ↔ n.negative = true := by
  simp only [integer?] at h
  split_ifs at h with _ hsign hzero
  · obtain rfl := Option.some.inj h
    have hpos : 0 < valueOfDigits n.whole := Nat.pos_of_ne_zero hzero
    exact iff_of_true (Int.neg_neg_of_pos (Int.ofNat_lt.mpr hpos)) hsign
  · obtain rfl := Option.some.inj h
    exact iff_of_false (Int.not_lt.mpr (Int.natCast_nonneg _)) hsign

end Numeral

end GuardedSql.Decimal

namespace GuardedSql.Json

open Decimal

variable {n : Numeral} {x : List Char}

namespace Token

theorem isWordChar_of_isNumeralChar {c : Char} (h : IsNumeralChar c) :
    isWordChar c = true := by
  rcases h with hdigit | hmark
  · simp [isWordChar, Char.isAlphanum, hdigit]
  · simp only [List.mem_cons, List.not_mem_nil, or_false] at hmark
    rcases hmark with rfl | rfl | rfl | rfl | rfl <;> decide

theorem not_isBlank_of_isNumeralChar {c : Char} (h : IsNumeralChar c) :
    isBlank c = false ∧ c ≠ '"' := by
  have hne : ∀ d, ¬IsNumeralChar d → c ≠ d := by
    rintro d hd rfl
    exact hd h
  refine ⟨?_, hne '"' (by decide)⟩
  simp [isBlank, hne ' ' (by decide), hne '\t' (by decide),
    hne '\n' (by decide), hne '\r' (by decide)]

theorem enter?_of_isNumeralChar {c : Char} (h : IsNumeralChar c) :
    enter? c = some ([], .word [c]) := by
  obtain ⟨hblank, hquote⟩ := not_isBlank_of_isNumeralChar h
  simp [enter?, hblank, hquote, isWordChar_of_isNumeralChar h]

theorem scanFrom?_word {read : List Char} (h : ∀ c ∈ x, IsNumeralChar c) :
    scanFrom? (.word read) x = finish? (.word (x.reverse ++ read)) := by
  induction x generalizing read with
  | nil => rfl
  | cons c x ih =>
      obtain ⟨hc, hx⟩ := List.forall_mem_cons.mp h
      rw [List.reverse_cons, List.append_assoc, List.singleton_append, ← ih hx]
      simp [scanFrom?, step?, isWordChar_of_isNumeralChar hc]

theorem ofWord?_of_parse? (h : Numeral.parse? x = some n) :
    ofWord? x = some (number n) := by
  obtain ⟨tail, hx⟩ := Numeral.exists_writes_of_parse? h
  have hchars := hx.isNumeralChar
  rw [ofWord?, h]
  split_ifs with hnull htrue hfalse
  · exact absurd (hchars 'n' (by simp [hnull])) (by decide)
  · exact absurd (hchars 't' (by simp [htrue])) (by decide)
  · exact absurd (hchars 'f' (by simp [hfalse])) (by decide)
  · rfl

theorem scan?_of_parse? (h : Numeral.parse? x = some n) :
    scan? x = some [number n] := by
  obtain ⟨tail, hx⟩ := Numeral.exists_writes_of_parse? h
  match x, hx.ne_nil, hx.isNumeralChar with
  | c :: rest, _, hchars =>
      obtain ⟨hc, hrest⟩ := List.forall_mem_cons.mp hchars
      have hword : finish? (.word (rest.reverse ++ [c])) = some [number n] := by
        rw [finish?, List.reverse_append, List.reverse_reverse,
          List.reverse_singleton, List.singleton_append, ofWord?_of_parse? h]
        rfl
      simp [scan?, scanFrom?, step?, enter?_of_isNumeralChar hc,
        scanFrom?_word hrest, hword]

end Token

theorem parse?_of_numeral (float? : Numeral → Option Float)
    (h : Numeral.parse? x = some n) :
    parse? float? (String.ofList x) = ofNumeral? float? n := by
  rw [parse?, Tree.parse?, String.toList_ofList, Token.scan?_of_parse? h]
  rfl

end GuardedSql.Json
