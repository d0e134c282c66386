import GuardedSql.Proofs.Rendering

/-!
# Patterns

A pattern match looks for the text of its value between two wildcards.  The text
is not empty when the value is not blank, provided that there is one.  Byte
strings have none, nor have timestamps that RFC 3339 cannot write: a pattern
match with one of them is written with the pattern that matches every text.

All that counts about the printed form of a timestamp is `Timestamp.Prints`.
-/

namespace GuardedSql

/-! ## Texts of numbers -/

namespace Decimal

theorem Scientific.positional_ne_empty (d : Scientific) :
    d.positional ≠ "" := by
  unfold positional
  dsimp only
  split
  · exact Nat.repr_ne_empty
  · split
    · exact Nat.repr_ne_empty
    · intro h
      rw [String.append_eq_empty_iff, String.append_eq_empty_iff] at h
      exact Nat.repr_ne_empty h.1.1

theorem Magnitude.positional_ne_empty (m : Magnitude) : m.positional ≠ "" := by
  match m with
  | .zero => decide
  | .finite value => exact value.shortest.positional_ne_empty
  | .infinite => decide
  | .notANumber => decide

theorem text_ne_empty (x : Float) : text x ≠ "" := by
  unfold text
  split
  · exact Magnitude.positional_ne_empty _
  · rename_i magnitude _ _
    intro h
    exact magnitude.positional_ne_empty (String.append_eq_empty_iff.mp h).2
  · exact Magnitude.positional_ne_empty _

end Decimal

theorem int_repr_ne_empty (n : Int) : n.repr ≠ "" := by
  rw [Int.repr_eq_if]
  split
  · exact Nat.repr_ne_empty
  · intro h
    exact Nat.repr_ne_empty (String.append_eq_empty_iff.mp h).2

/-! ## Texts of timestamps -/

namespace Timestamp

/-- A year of at most four digits and no sign, and an offset of whole minutes
below a day. -/
structure IsWritable (t : Timestamp) : Prop where
  year : 0 ≤ t.year ∧ t.year ≤ 9999
  minutes : 60 ∣ t.offset
  day : t.offset.natAbs < 24 * 60 * 60

theorem hasText_iff {t : Timestamp} : t.hasText = true ↔ t.IsWritable := by
  unfold hasText
  simp only [Bool.and_eq_true, decide_eq_true_eq, beq_iff_eq, and_assoc]
  constructor
  · rintro ⟨hnonneg, hfour, hminutes, hday⟩
    exact ⟨⟨hnonneg, hfour⟩, Int.dvd_of_emod_eq_zero hminutes, hday⟩
  · rintro ⟨⟨hnonneg, hfour⟩, hminutes, hday⟩
    exact ⟨hnonneg, hfour, Int.emod_eq_zero_of_dvd hminutes, hday⟩

theorem text?_eq_none_iff {t : Timestamp} :
    t.text? = none ↔ ¬t.IsWritable := by
  rw [← hasText_iff, text?]
  split
  · rename_i h
    simp [h]
  · rename_i h
    simp [h]

/-- Exactly the timestamps that RFC 3339 can write are printed, and what is
printed is not empty. -/
structure Prints (print? : Timestamp → Option String) : Prop where
  eq_none_iff {t : Timestamp} : print? t = none ↔ ¬t.IsWritable
  ne_empty {t : Timestamp} {s : String} : print? t = some s → s ≠ ""

theorem offsetText_ne_empty (offset : Int) : offsetText offset ≠ "" := by
  unfold offsetText
  split
  · decide
  · intro h
    simp only [String.append_eq_empty_iff] at h
    exact absurd h.1.2 (by decide)

theorem rfc3339_ne_empty (t : Timestamp) : t.rfc3339 ≠ "" := fun h =>
  offsetText_ne_empty t.offset (String.append_eq_empty_iff.mp h).2

theorem prints_text? : Prints text? := by
  refine ⟨text?_eq_none_iff, ?_⟩
  intro t s h
  obtain ⟨-, heq⟩ := Option.ite_none_right_eq_some.mp h
  exact Option.some.inj heq ▸ t.rfc3339_ne_empty

end Timestamp

/-! ## Values without text -/

namespace Value

/-- A value that is not blank and has no text all the same: a byte string, or a
timestamp that RFC 3339 cannot write. -/
inductive IsMute : Value → Prop
  | bytes (data : ByteArray) : IsMute (.bytes data)
  | timestamp {t : Timestamp} (h : ¬t.IsWritable) : IsMute (.timestamp t)

variable {print? : Timestamp → Option String} {v : Value}

theorem textBy_eq_none_iff (hprint : Timestamp.Prints print?)
    (hv : v.isBlank = false) : v.textBy print? = none ↔ v.IsMute := by
  constructor
  · intro h
    match v, hv, h with
    | .bytes data, _, _ => exact .bytes data
    | .timestamp _, _, h => exact .timestamp (hprint.eq_none_iff.mp h)
  · rintro (_ | hwritable)
    · rfl
    · exact hprint.eq_none_iff.mpr hwritable

theorem textBy_ne_empty (hprint : Timestamp.Prints print?)
    (hv : v.isBlank = false) {t : String} (h : v.textBy print? = some t) :
    t ≠ "" := by
  match v, hv, h with
  | .bool true, _, rfl => decide
  | .bool false, _, rfl => decide
  | .int n, _, rfl => exact int_repr_ne_empty n.toInt
  | .uint _, _, rfl => exact Nat.repr_ne_empty
  | .float x, _, rfl => exact Decimal.text_ne_empty x
  | .text s, hv, rfl => exact String.isEmpty_eq_false_iff.mp hv
  | .timestamp _, _, h => exact hprint.ne_empty h

theorem patternBy_of_text {t : String} (h : v.textBy print? = some t) :
    v.patternBy print? = .text ("%" ++ t ++ "%") := by
  rw [patternBy, h]
  rfl

theorem patternBy_of_mute (hprint : Timestamp.Prints print?) (h : v.IsMute) :
    v.patternBy print? = .text "%%" := by
  have hv : v.isBlank = false := by
    rcases h with _ | _
    · rfl
    · rfl
  rw [patternBy, (textBy_eq_none_iff hprint hv).mpr h]
  rfl

/-- The pattern for a text matches everything only if the text is empty. -/
theorem pattern_text_eq_iff {t : String} :
    Value.text ("%" ++ t ++ "%") = .text "%%" ↔ t = "" := by
  have hsplit : "%%" = "%" ++ "" ++ "%" := by decide
  rw [text.injEq, hsplit, String.append_left_inj, String.append_right_inj]

/-- A value that is not blank gives the pattern for a text that is not empty,
unless it is mute. -/
theorem exists_text_of_not_mute (hprint : Timestamp.Prints print?)
    (hv : v.isBlank = false) (h : ¬v.IsMute) :
    ∃ t, v.textBy print? = some t ∧ t ≠ "" ∧
      v.patternBy print? = .text ("%" ++ t ++ "%") := by
  rw [← textBy_eq_none_iff hprint hv, ← ne_eq, Option.ne_none_iff_exists'] at h
  obtain ⟨t, ht⟩ := h
  exact ⟨t, ht, textBy_ne_empty hprint hv ht, patternBy_of_text ht⟩

theorem patternBy_eq_match_all_iff (hprint : Timestamp.Prints print?)
    (hv : v.isBlank = false) : v.patternBy print? = .text "%%" ↔ v.IsMute := by
  constructor
  · intro hpattern
    by_contra hmute
    obtain ⟨t, -, hne, htext⟩ := exists_text_of_not_mute hprint hv hmute
    rw [htext, pattern_text_eq_iff] at hpattern
    exact hne hpattern
  · exact patternBy_of_mute hprint

theorem pattern_eq_match_all_iff (hv : v.isBlank = false) :
    v.pattern = .text "%%" ↔ v.IsMute :=
  patternBy_eq_match_all_iff Timestamp.prints_text? hv

end Value

/-! ## Pattern matches -/

namespace Filter

/-- A pattern match with a value that is not blank. -/
structure LooksFor (f : Filter) (v : Value) : Prop where
  operator : f.operator = .like ∨ f.operator = .orLike
  operand : f.operand = .single v
  given : v.isBlank = false

variable {f : Filter} {v : Value}

theorem LooksFor.not_isSkipped (h : f.LooksFor v) : f.isSkipped = false := by
  obtain ⟨hoperator, hoperand, hgiven⟩ := h
  rw [isSkipped, hoperand]
  rcases hoperator with hlike | hlike
  · rw [hlike]
    exact hgiven
  · rw [hlike]
    exact hgiven

theorem LooksFor.condition?_eq (h : f.LooksFor v) :
    f.condition? = .ok (some ⟨f.column, .like v.pattern⟩) := by
  obtain ⟨hoperator, hoperand, hgiven⟩ := h
  have htest : f.test? = .ok (some (.like v.pattern)) := by
    rcases hoperator with hlike | hlike
    · simp [test?, hlike, hoperand, Operator.expectsList, Operand.isBlank,
        hgiven]
    · simp [test?, hlike, hoperand, Operator.expectsList, Operand.isBlank,
        hgiven]
  rw [condition?, htest]
  rfl

theorem LooksFor.eq_of_yields (h : f.LooksFor v) {c : Condition}
    (hc : f.Yields c) : c = ⟨f.column, .like v.pattern⟩ := by
  obtain ⟨hoperator, hoperand, -⟩ := h
  rcases hc with @⟨_, operator, _, hcompare⟩ | _ | _ | _
  · rcases hoperator with rfl | rfl
    · exact absurd hcompare (by decide)
    · exact absurd hcompare (by decide)
  · rw [Operand.single.injEq] at hoperand
    rw [hoperand]
  · exact nomatch hoperand
  · exact nomatch hoperand

/-- A filter comes to a pattern match only if it is one. -/
theorem Yields.exists_looksFor {c : Condition} (h : f.Yields c)
    (hkept : f.isSkipped = false) {pattern : Value}
    (htest : c.test = .like pattern) :
    ∃ v, f.LooksFor v ∧ pattern = v.pattern := by
  rcases h with _ | @⟨_, operator, v, hoperator⟩ | _ | _
  · cases htest
  · cases htest
    have hgiven : v.isBlank = false := by
      rcases hoperator with rfl | rfl
      · exact hkept
      · exact hkept
    exact ⟨v, ⟨hoperator, rfl, hgiven⟩, rfl⟩
  · cases htest
  · cases htest

end Filter

namespace Predicate

variable {wl : Whitelist} {f : Filter} {v : Value}

/-- A pattern match on an allowed column is never refused. -/
theorem conditionOf_of_looksFor {use : ColumnUse} (h : f.LooksFor v)
    (hcolumn : wl.allows use f.column = true) :
    (conditionOf wl use f).outcome =
      .ok (some ⟨f.column, .like v.pattern⟩) := by
  unfold conditionOf
  rw [Audited.outcome_bind_eq_ok_iff]
  refine ⟨(), Whitelist.checkColumn_eq_ok_iff.mpr hcolumn, ?_⟩
  rw [Audited.outcome_ofExcept, h.condition?_eq]

end Predicate

/-! ## Statements -/

/-- What a pattern match on an allowed column looks for, alone or in a group:
the text of its value, which is not empty, unless the value is mute.  Exactly
for these values the pattern matches everything, and no other filter brings that
pattern into a predicate.  Another way of printing timestamps may change the
texts, but not the values for which there is none. -/
theorem patterns_narrow_unless_mute (wl : Whitelist) :
    (∀ (use : ColumnUse) (f : Filter) (v : Value), f.LooksFor v →
      wl.allows use f.column = true →
        ∃ pattern,
          (Predicate.conditionOf wl use f).outcome =
            .ok (some ⟨f.column, .like pattern⟩) ∧
          (¬v.IsMute → ∃ t, v.text? = some t ∧ t ≠ "" ∧
            pattern = .text ("%" ++ t ++ "%")) ∧
          (pattern = .text "%%" ↔ v.IsMute)) ∧
    (∀ (fs : Filters) (p : Predicate),
      (Predicate.ofFilters wl fs).outcome = .ok p →
        (∀ criterion ∈ fs.criteria, ∀ f ∈ criterion.members, ∀ v,
          f.LooksFor v →
            ∃ t ∈ p, criterion.Yields t ∧
              ⟨f.column, .like v.pattern⟩ ∈ t.conditions) ∧
        ((∃ t ∈ p, ∃ c ∈ t.conditions, c.test = .like (.text "%%")) ↔
          ∃ criterion ∈ fs.criteria, ∃ f ∈ criterion.members, ∃ v,
            f.LooksFor v ∧ v.IsMute)) ∧
    ∀ print?, Timestamp.Prints print? → ∀ v : Value, v.isBlank = false →
      (¬v.IsMute → ∃ t, v.textBy print? = some t ∧ t ≠ "" ∧
        v.patternBy print? = .text ("%" ++ t ++ "%")) ∧
      (v.patternBy print? = .text "%%" ↔ v.IsMute) := by
  refine ⟨?_, ?_, ?_⟩
  · intro use f v hlooks hcolumn
    exact ⟨v.pattern, Predicate.conditionOf_of_looksFor hlooks hcolumn,
      Value.exists_text_of_not_mute Timestamp.prints_text? hlooks.given,
      Value.pattern_eq_match_all_iff hlooks.given⟩
  · intro fs p hp
    have hfound : ∀ criterion ∈ fs.criteria, ∀ f ∈ criterion.members, ∀ v,
        f.LooksFor v → ∃ t ∈ p, criterion.Yields t ∧
          ⟨f.column, .like v.pattern⟩ ∈ t.conditions := by
      intro criterion hcriterion f hf v hlooks
      obtain ⟨t, ht, hyields, c, hc, hcondition⟩ :=
        Predicate.exists_condition_of_member hp hcriterion hf
          hlooks.not_isSkipped
      obtain rfl := hlooks.eq_of_yields hcondition
      exact ⟨t, ht, hyields, hc⟩
    refine ⟨hfound, ?_, ?_⟩
    · rintro ⟨t, ht, c, hc, htest⟩
      obtain ⟨criterion, hcriterion, -, f, hf, hkept, hcondition⟩ :=
        Predicate.exists_member_of_condition hp ht hc
      obtain ⟨v, hlooks, hpattern⟩ := hcondition.exists_looksFor hkept htest
      have hmute := (Value.pattern_eq_match_all_iff hlooks.given).mp
        hpattern.symm
      exact ⟨criterion, hcriterion, f, hf, v, hlooks, hmute⟩
    · rintro ⟨criterion, hcriterion, f, hf, v, hlooks, hmute⟩
      obtain ⟨t, ht, -, hc⟩ := hfound criterion hcriterion f hf v hlooks
      refine ⟨t, ht, _, hc, ?_⟩
      rw [(Value.pattern_eq_match_all_iff hlooks.given).mpr hmute]
  · intro print? hprint v hgiven
    exact ⟨Value.exists_text_of_not_mute hprint hgiven,
      Value.patternBy_eq_match_all_iff hprint hgiven⟩

/-- A text alone and a byte string in a group.  The group matches every row.
The pattern for a timestamp of universal time contains a text. -/
theorem patterns_narrow_unless_mute_mixed :
    let wl := Whitelist.ofLists [] ["name", "note AS n"]
    let data := Value.bytes ⟨#[97, 110]⟩
    let noon : Timestamp := ⟨2024, 2, 29, 12, 0, 0, 0, 0⟩
    let group : List Filter :=
      [⟨"name", .equal, .absent⟩, ⟨"note", .orLike, .single data⟩]
    let fs := (Filters.empty.like "name" (.single (.text "ann"))).anyOf group
    (Predicate.conditionOf wl .plain
        ⟨"name", .like, .single (.text "ann")⟩).outcome =
      .ok (some ⟨"name", .like (.text "%ann%")⟩) ∧
    (Predicate.conditionOf wl .searched
        ⟨"note", .orLike, .single data⟩).outcome =
      .ok (some ⟨"note", .like (.text "%%")⟩) ∧
    (∃ p, (Predicate.ofFilters wl fs).outcome = .ok p ∧
      ∃ t ∈ p, ∃ c ∈ t.conditions, c.test = .like (.text "%%")) ∧
    (Value.timestamp noon).pattern = .text "%2024-02-29T12:00:00Z%" ∧
    (Value.timestamp noon).pattern ≠ .text "%%" := by
  intro wl data noon group fs
  obtain ⟨hcondition, hpredicate, hprinted⟩ := patterns_narrow_unless_mute wl
  have hlooks : Filter.LooksFor ⟨"note", .orLike, .single data⟩ data :=
    ⟨.inr rfl, rfl, rfl⟩
  have hmute : data.IsMute := .bytes _
  have hwritable : ¬(Value.timestamp noon).IsMute := by
    rintro (_ | hnot)
    exact hnot ⟨by decide, by decide, by decide⟩
  obtain ⟨-, hall⟩ := hprinted _ Timestamp.prints_text? (.timestamp noon) rfl
  refine ⟨?_, ?_, ?_, ?_, hall.not.mpr hwritable⟩
  · obtain ⟨_, houtcome, htext, -⟩ :=
      hcondition .plain ⟨"name", .like, .single (.text "ann")⟩ (.text "ann")
        ⟨.inl rfl, rfl, by decide⟩ (by decide)
    obtain ⟨t, ht, -, rfl⟩ := htext nofun
    obtain rfl := Option.some.inj ht
    exact houtcome
  · obtain ⟨_, houtcome, -, hall⟩ :=
      hcondition .searched ⟨"note", .orLike, .single data⟩ data hlooks
        (by decide)
    obtain rfl := hall.mpr hmute
    exact houtcome
  · have hp : ∃ p, (Predicate.ofFilters wl fs).outcome = .ok p := by
      dsimp only [fs, group, data]
      exact ⟨_, rfl⟩
    obtain ⟨p, hp⟩ := hp
    have hgroup : Criterion.anyOf group ∈ fs.criteria :=
      List.mem_cons_of_mem _ List.mem_cons_self
    have hmember : ⟨"note", .orLike, .single data⟩ ∈ group :=
      List.mem_cons_of_mem _ List.mem_cons_self
    refine ⟨p, hp, (hpredicate fs p hp).2.mpr ?_⟩
    exact ⟨_, hgroup, _, hmember, data, hlooks, hmute⟩
  · exact congrArg Value.text (by decide +kernel)

/-- The clock of a timestamp may be ahead of universal time by a fraction of a
minute.  A search for such a timestamp matches every text. -/
theorem not_patterns_always_narrow :
    ¬∀ (wl : Whitelist) (column : String) (v : Value), column ∈ wl.columns →
      v.isBlank = false →
        ∃ t, t ≠ "" ∧
          (whereClause wl (Filters.empty.like column (.single v))).outcome =
            .ok ⟨"WHERE 1=1 AND " ++ column ++ " LIKE ?",
              [.text ("%" ++ t ++ "%")]⟩ := by
  intro h
  let wl := Whitelist.ofLists [] ["name"]
  let v := Value.timestamp ⟨1925, 1, 31, 8, 0, 0, 0, 1172⟩
  obtain ⟨t, ht, hclause⟩ := h wl "name" v (by decide) rfl
  have hall : (whereClause wl (Filters.empty.like "name" (.single v))).outcome =
      .ok ⟨"WHERE 1=1 AND name LIKE ?", [.text "%%"]⟩ := rfl
  rw [hall, Except.ok.injEq, Statement.mk.injEq] at hclause
  have hpattern := (List.cons.inj hclause.2).1
  exact ht (Value.pattern_text_eq_iff.mp hpattern.symm)

end GuardedSql
