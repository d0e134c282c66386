import GuardedSql.PagedTable.Total
import GuardedSql.Proofs.Numerals
import GuardedSql.Proofs.WhiteSpace
import GuardedSql.Proofs.WholeParts

/-!
# Totals as numbers and as texts

The answer to a count may hold its total as a numeral or as a text of the same
numeral.  For an integer of 64 bits both are read alike, and every number below
one counts as zero in both forms.  Any other number, with a fraction or an
exponent or beyond 64 bits, is cut off to an integer of 64 bits as a numeral and
counts as zero as a text.

None of this depends on which number in double precision a numeral is read as.
-/

namespace GuardedSql.PagedTable

open Decimal (Numeral)
open Text (IsBlank IsTrimmed)

/-! ## Reading a total -/

section Read

variable {float? : Numeral → Option Float} {x tail before after : List Char}
  {n : Numeral} {v : Json} {k : Int}

theorem lookup?_putMember (row : Row) (name : String) (v : Json) :
    Json.lookup? (Json.putMember row name v) name = some v := by
  induction row with
  | nil => simp [Json.putMember, Json.lookup?]
  | cons member row ih =>
      rw [Json.putMember]
      split_ifs with hname
      · simp [Json.lookup?]
      · rw [← ih]
        simp [Json.lookup?, hname]

theorem totalOf_putMember (row : Row) (v : Json) (rest : List Row) :
    totalOf (Json.putMember row "total" v :: rest) = countOf v := by
  rw [totalOf, List.head?_cons, Option.bind_some, lookup?_putMember]
  rfl

theorem isWhiteSpace_eq_false_of_isNumeralChar {c : Char}
    (h : Decimal.IsNumeralChar c) : Text.isWhiteSpace c = false := by
  rcases h with hdigit | hmark
  · obtain ⟨hlow, hhigh⟩ := Char.isDigit_iff_toNat.mp hdigit
    have hzero : '0'.toNat = 48 := rfl
    have hnine : '9'.toNat = 57 := rfl
    exact Text.isWhiteSpace_eq_false_of_visible (by omega) (by omega)
  · simp only [List.mem_cons, List.not_mem_nil, or_false] at hmark
    rcases hmark with rfl | rfl | rfl | rfl | rfl <;> decide

/-- White space around a numeral has no part in it. -/
theorem countOf_surrounded (hx : Numeral.Writes x tail n)
    (hbefore : IsBlank before) (hafter : IsBlank after) :
    countOf (.str (String.ofList (before ++ x ++ after))) =
      (readCount? x).getD 0 := by
  have hsolid : ∀ c ∈ x, Text.isWhiteSpace c = false := fun c hc =>
    isWhiteSpace_eq_false_of_isNumeralChar (hx.isNumeralChar c hc)
  have htrimmed : IsTrimmed (before ++ x ++ after) x := by
    refine ⟨⟨before, after, hbefore, hafter, rfl⟩, ?_, ?_⟩
    · exact fun c hc => hsolid c (List.mem_of_mem_head? hc)
    · exact fun c hc => hsolid c (List.mem_of_mem_getLast? hc)
  rw [countOf, String.toList_ofList, htrimmed.trim_eq]

theorem readCount?_eq (hx : Numeral.Writes x tail n) :
    readCount? x = (Decimal.readDigits? x).bind fun m =>
      if m < UInt64.size then some (UInt64.ofNat m) else none := by
  unfold readCount?
  split
  case h_1 rest => exact absurd rfl (hx.ne_plus_cons rest)
  case h_2 => rfl

/-- A text is read as the integer that it writes if this is a natural number of
64 bits, and as zero otherwise. -/
theorem readCount?_getD_of_integer (hx : Numeral.Writes x tail n)
    (hk : n.integer? = some k) :
    (readCount? x).getD 0 =
      if k < UInt64.size then UInt64.ofNat k.toNat else 0 := by
  have hsign := Numeral.integer?_neg_iff hk
  rw [readCount?_eq hx, hx.readDigits?_eq, hk]
  by_cases hneg : k < 0
  · have hzero : k.toNat = 0 := by omega
    rw [if_pos (hsign.mp hneg), hzero]
    simp
  · have hsize : k.toNat < UInt64.size ↔ k < UInt64.size := by omega
    rw [if_neg (hsign.not.mp hneg), Option.map_some, Option.bind_some]
    by_cases hlt : k < UInt64.size
    · rw [if_pos (hsize.mpr hlt), if_pos hlt]
      rfl
    · rw [if_neg (hsize.not.mpr hlt), if_neg hlt]
      rfl

/-- A numeral is an integer of 64 bits, or a number in double precision that
writes no natural number of 64 bits. -/
theorem ofNumeral?_eq_some (hv : Json.ofNumeral? float? n = some v) :
    (∃ k, v = .int k ∧ n.integer? = some k ∧ k < UInt64.size) ∨
      ∃ y, v = .float y ∧
        ∀ k, n.integer? = some k → k < 0 ∨ UInt64.size ≤ k := by
  rw [Json.ofNumeral?] at hv
  match hk : n.integer? with
  | none =>
      rw [hk] at hv
      obtain ⟨y, -, rfl⟩ := Option.map_eq_some_iff.mp hv
      exact .inr ⟨y, rfl, nofun⟩
  | some k =>
      rw [hk] at hv
      simp only at hv
      have hmin : Int64.minValue.toInt = -2 ^ 63 := by decide
      split_ifs at hv with hrange
      · obtain rfl := Option.some.inj hv
        exact .inl ⟨k, rfl, rfl, hrange.2⟩
      · obtain ⟨y, -, rfl⟩ := Option.map_eq_some_iff.mp hv
        refine .inr ⟨y, rfl, ?_⟩
        rintro k ⟨⟩
        omega

theorem countOf_int (hk : k < UInt64.size) :
    countOf (.int k) = UInt64.ofNat k.toNat := by
  have hmin : min k.toNat (UInt64.size - 1) = k.toNat :=
    Nat.min_eq_left (by omega)
  rw [countOf, hmin]

/-- A number in double precision writes nothing that is read as a count. -/
theorem readCount?_getD_of_float (hx : Numeral.Writes x tail n)
    (hk : ∀ k, n.integer? = some k → k < 0 ∨ UInt64.size ≤ k) :
    (readCount? x).getD 0 = 0 := by
  match hinteger : n.integer? with
  | none =>
      rw [readCount?_eq hx, hx.readDigits?_eq, hinteger]
      simp
  | some k =>
      rw [readCount?_getD_of_integer hx hinteger]
      rcases hk k hinteger with hneg | hlarge
      · have hzero : k.toNat = 0 := by omega
        rw [hzero]
        exact ite_self _
      · exact if_neg (by omega)

/-- The numeral of a natural number of 64 bits means this number. -/
theorem ofNumeral?_of_repr {m : Nat} (hx : Numeral.Writes m.repr.toList tail n)
    (hm : m < UInt64.size) : Json.ofNumeral? float? n = some (.int m) := by
  have hdigits := hx.readDigits?_eq
  rw [Decimal.readDigits?_repr] at hdigits
  split_ifs at hdigits with hsign
  obtain ⟨k, hk, hkm⟩ := Option.map_eq_some_iff.mp hdigits.symm
  have hnonneg : ¬k < 0 := (Numeral.integer?_neg_iff hk).not.mpr hsign
  have hmin : Int64.minValue.toInt = -2 ^ 63 := by decide
  obtain rfl : k = m := by omega
  rw [Json.ofNumeral?, hk]
  exact if_pos (by omega)

end Read

/-! ## The two forms of a total -/

variable {float? : Numeral → Option Float} {x before after : List Char}
  {n : Numeral} {v : Json}

/-- A total is the same number when it is given as a numeral and as a text of
this numeral with white space around it, unless the numeral means a number in
double precision that is at least one: this is cut off to an integer of 64 bits
as a numeral and counts as zero as a text.  Nothing is assumed of the way in
which numerals are read in double precision. -/
theorem total_text_agrees_with_number (hx : Numeral.parse? x = some n)
    (hv : Json.parse? float? (String.ofList x) = some v)
    (hbefore : IsBlank before) (hafter : IsBlank after) (row : Row)
    (rest : List Row) :
    let text := Json.str (String.ofList (before ++ x ++ after))
    let asNumber := totalOf (Json.putMember row "total" v :: rest)
    let asText := totalOf (Json.putMember row "total" text :: rest)
    (∀ m < UInt64.size, x = m.repr.toList →
      asNumber = UInt64.ofNat m ∧ asText = UInt64.ofNat m) ∧
    (∀ k, v = .int k →
      asNumber = UInt64.ofNat k.toNat ∧ asText = UInt64.ofNat k.toNat) ∧
    (∀ y, v = .float y → asNumber = y.toUInt64 ∧ asText = 0) ∧
    (asNumber = asText ↔ ∀ y, v = .float y → ¬1 ≤ y) := by
  intro text asNumber asText
  obtain ⟨tail, hwrites⟩ := Numeral.exists_writes_of_parse? hx
  have hvalue : Json.ofNumeral? float? n = some v := by
    rw [← Json.parse?_of_numeral float? hx, hv]
  have hnumber : asNumber = countOf v := totalOf_putMember row v rest
  have htext : asText = (readCount? x).getD 0 := by
    rw [← countOf_surrounded hwrites hbefore hafter]
    exact totalOf_putMember row text rest
  have hrepr : ∀ m < UInt64.size, x = m.repr.toList → v = .int m := by
    rintro m hm rfl
    have hint : Json.ofNumeral? float? n = some (.int m) :=
      ofNumeral?_of_repr hwrites hm
    exact Option.some.inj (hvalue.symm.trans hint)
  rcases ofNumeral?_eq_some hvalue with ⟨k, rfl, hk, hlt⟩ | ⟨y, rfl, hk⟩
  · have hboth : asNumber = UInt64.ofNat k.toNat ∧
        asText = UInt64.ofNat k.toNat := by
      rw [hnumber, htext, readCount?_getD_of_integer hwrites hk, if_pos hlt]
      exact ⟨countOf_int hlt, rfl⟩
    refine ⟨?_, ?_, nofun, iff_of_true (hboth.1.trans hboth.2.symm) nofun⟩
    · intro m hm hx
      obtain rfl : k = m := Json.int.inj (hrepr m hm hx)
      exact hboth
    · rintro k ⟨⟩
      exact hboth
  · have hboth : asNumber = y.toUInt64 ∧ asText = 0 := by
      rw [hnumber, htext, readCount?_getD_of_float hwrites hk]
      exact ⟨rfl, rfl⟩
    refine ⟨fun m hm hx => absurd (hrepr m hm hx) nofun, nofun, ?_, ?_⟩
    · rintro y ⟨⟩
      exact hboth
    · rw [hboth.1, hboth.2, ← not_iff_not, ← ne_eq,
        Decimal.toUInt64_ne_zero_iff]
      simp

theorem numeral_three_point_zero :
    Numeral.parse? ['3', '.', '0'] = some ⟨false, ['3'], ['0'], none⟩ := by
  decide

/-- A numeral with a fraction means a number in double precision, even if the
fraction is zero. -/
theorem parse?_three_point_zero
    (h : float? ⟨false, ['3'], ['0'], none⟩ = some 3.0) :
    Json.parse? float? (String.ofList ['3', '.', '0']) = some (.float 3.0) := by
  rw [Json.parse?_of_numeral float? numeral_three_point_zero, Json.ofNumeral?]
  exact congrArg (Option.map Json.float) h

theorem float?_three_point_zero :
    Numeral.float? ⟨false, ['3'], ['0'], none⟩ = some 3.0 := by
  decide +kernel

/-- The total `3.0` is lost as a text, the total `42` is not. -/
theorem total_text_agrees_with_number_fraction :
    Json.parse? Numeral.float? "3.0" = some (.float 3.0) ∧
    totalOf [[("total", .float 3.0)]] = 3 ∧
    totalOf [[("total", .str " 3.0")]] = 0 ∧
    Json.parse? Numeral.float? "42" = some (.int 42) ∧
    totalOf [[("total", .int 42)]] = 42 ∧
    totalOf [[("total", .str "42\n")]] = 42 := by
  have hwhole : Numeral.parse? ['4', '2'] =
      some ⟨false, ['4', '2'], [], none⟩ := by decide
  have hthree := parse?_three_point_zero float?_three_point_zero
  have hint :
      Json.parse? Numeral.float? (String.ofList ['4', '2']) =
        some (.int 42) := by
    rw [Json.parse?_of_numeral Numeral.float? hwhole]
    rfl
  have hspace : IsBlank [' '] :=
    Text.isBlank_cons.mpr ⟨by decide, Text.isBlank_nil⟩
  have hline : IsBlank ['\n'] :=
    Text.isBlank_cons.mpr ⟨by decide, Text.isBlank_nil⟩
  obtain ⟨-, -, hfloat, -⟩ := total_text_agrees_with_number
    numeral_three_point_zero hthree hspace Text.isBlank_nil [] []
  obtain ⟨hdigits, -⟩ := total_text_agrees_with_number hwhole hint
    Text.isBlank_nil hline [] []
  have htruncated : (3.0 : Float).toUInt64 = 3 := by decide +kernel
  obtain ⟨hnumber, htext⟩ := hfloat _ rfl
  exact ⟨hthree, hnumber.trans htruncated, htext, hint,
    hdigits 42 (by decide) (by decide)⟩

/-- A total is not always the same number in both forms, however numerals are
read in double precision, provided that `3.0` is three. -/
theorem not_total_text_agrees_with_number :
    ¬∃ float? : Numeral → Option Float,
      float? ⟨false, ['3'], ['0'], none⟩ = some 3.0 ∧
      ∀ (x before after : List Char) (n : Numeral) (v : Json) (row : Row)
          (rest : List Row),
        Numeral.parse? x = some n →
        Json.parse? float? (String.ofList x) = some v →
        IsBlank before → IsBlank after →
        totalOf (Json.putMember row "total" v :: rest) =
          totalOf (Json.putMember row "total"
            (.str (String.ofList (before ++ x ++ after))) :: rest) := by
  rintro ⟨float?, hthree, h⟩
  have hsame := h ['3', '.', '0'] [] [] _ _ [] [] numeral_three_point_zero
    (parse?_three_point_zero hthree) Text.isBlank_nil Text.isBlank_nil
  rw [totalOf_putMember, totalOf_putMember] at hsame
  exact absurd hsame (by decide +kernel)

end GuardedSql.PagedTable
