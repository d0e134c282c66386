import GuardedSql.Select
import Mathlib.Algebra.Group.Nat.Defs
import Mathlib.Order.MinMax

/-!
# Pages

The pages of one size cut a result into windows that follow each other.  A row
number below the greatest number of 64 bits lies in exactly one of them.  Many
pages may share the greatest offset, but it lies beyond all of these rows.
-/

namespace GuardedSql

namespace Select

/-- The window of a query contains the row with a given number. -/
def Covers (q : Select) (row : ℕ) : Prop :=
  q.offset.toNat ≤ row ∧ row < q.offset.toNat + q.limit.toNat

variable {q : Select} {page perPage : UInt64} {row : ℕ}

theorem toNat_offset_page :
    (q.page page perPage).offset.toNat =
      min ((max page.toNat 1 - 1) * perPage.toNat) maxOffset := by
  have hfits : min ((max page.toNat 1 - 1) * perPage.toNat) maxOffset <
      UInt64.size :=
    Nat.lt_of_le_of_lt (Nat.min_le_right _ _) (by decide)
  exact UInt64.toNat_ofNat_of_lt' hfits

/-- Page zero is the first page. -/
theorem page_zero (q : Select) (perPage : UInt64) :
    q.page 0 perPage = q.page 1 perPage := rfl

theorem offset_page_le_offset_page {page' : UInt64} (hpage : page ≤ page') :
    (q.page page perPage).offset ≤ (q.page page' perPage).offset := by
  have hpages : max page.toNat 1 - 1 ≤ max page'.toNat 1 - 1 := by
    have hle := UInt64.le_iff_toNat_le.mp hpage
    omega
  rw [UInt64.le_iff_toNat_le, toNat_offset_page, toNat_offset_page]
  exact min_le_min_right maxOffset (Nat.mul_le_mul_right _ hpages)

/-- An offset that is cut off exceeds the row, as the true one does, so the
cut does not change which pages contain it. -/
theorem page_covers_iff (hsize : 1 ≤ perPage) (hrow : row < maxOffset) :
    (q.page page perPage).Covers row ↔
      row / perPage.toNat = max page.toNat 1 - 1 := by
  have hpositive : 0 < perPage.toNat := UInt64.le_iff_toNat_le.mp hsize
  generalize hskipped : max page.toNat 1 - 1 = skipped
  have hoffset : (q.page page perPage).offset.toNat =
      min (skipped * perPage.toNat) maxOffset := by
    rw [toNat_offset_page, hskipped]
  have hlimit : (q.page page perPage).limit = perPage := rfl
  rw [Covers, hoffset, hlimit, Nat.div_eq_iff hpositive, min_le_iff,
    or_iff_left hrow.not_ge]
  refine and_congr_right fun hle => ?_
  rw [min_eq_left (hle.trans hrow.le)]
  omega

/-- The page of a row exists: its number is at most one more than that of the
row, so it fits into 64 bits. -/
theorem exists_page_of_row (perPage : UInt64) (hrow : row < maxOffset) :
    ∃ page : UInt64, 1 ≤ page ∧ page.toNat = row / perPage.toNat + 1 := by
  have hfits : row / perPage.toNat + 1 < UInt64.size := by
    have hle := Nat.div_le_self row perPage.toNat
    have hbound : row + 1 < UInt64.size := Nat.add_lt_of_lt_sub hrow
    omega
  have hpage := UInt64.toNat_ofNat_of_lt' hfits
  refine ⟨UInt64.ofNat (row / perPage.toNat + 1), ?_, hpage⟩
  rw [UInt64.le_iff_toNat_le, hpage]
  exact Nat.le_add_left _ _

/-- For every page size, a row below the greatest number lies in the window of
exactly one page.  Page zero shows what the first page shows.  The offset is the
true one as long as that fits into 64 bits and the greatest number from there
on, so it never decreases from page to page. -/
theorem pages_tile (q : Select) :
    (∀ (perPage : UInt64) (row : ℕ), 1 ≤ perPage → row < 2 ^ 64 - 1 →
      ∃ page : UInt64, page.toNat = row / perPage.toNat + 1 ∧
        1 ≤ page ∧ (q.page page perPage).Covers row ∧
        ∀ page' : UInt64, 1 ≤ page' → (q.page page' perPage).Covers row →
          page' = page) ∧
    (∀ perPage, q.page 0 perPage = q.page 1 perPage) ∧
    (∀ page perPage : UInt64, (q.page page perPage).limit = perPage ∧
      (q.page page perPage).offset.toNat =
        min ((max page.toNat 1 - 1) * perPage.toNat) (2 ^ 64 - 1)) ∧
    ∀ page page' perPage : UInt64, page ≤ page' →
      (q.page page perPage).offset ≤ (q.page page' perPage).offset := by
  refine ⟨?_, q.page_zero, ?_, ?_⟩
  · intro perPage row hsize hrow
    obtain ⟨page, hfirst, hpage⟩ := exists_page_of_row perPage hrow
    refine ⟨page, hpage, hfirst, ?_, ?_⟩
    · rw [page_covers_iff hsize hrow, hpage, max_eq_left (Nat.le_add_left _ _),
        Nat.add_sub_cancel]
    · intro page' hfirst' hcovers
      have hpositive : 1 ≤ page'.toNat := UInt64.le_iff_toNat_le.mp hfirst'
      have hquotient := (page_covers_iff hsize hrow).mp hcovers
      rw [max_eq_left hpositive] at hquotient
      rw [← UInt64.toNat_inj, hpage, hquotient, Nat.sub_add_cancel hpositive]
  · intro page perPage
    exact ⟨rfl, toNat_offset_page⟩
  · intro page page' perPage hpage
    exact offset_page_le_offset_page hpage

/-- The last row that a page has to contain, and two later pages that share the
greatest offset: the true one of the first of them, but not of the second. -/
theorem pages_tile_last_row :
    let q : Select := { table := "orders" }
    let row := 2 ^ 64 - 2
    1 ≤ (3 : UInt64) ∧ row < 2 ^ 64 - 1 ∧
      (∃ page : UInt64, page.toNat = 6148914691236517205 ∧
        (q.page page 3).Covers row ∧
        ∀ page' : UInt64, 1 ≤ page' → (q.page page' 3).Covers row →
          page' = page) ∧
      (q.page 6148914691236517206 3).offset.toNat =
        6148914691236517205 * 3 ∧
      (q.page 6148914691236517207 3).offset.toNat = 2 ^ 64 - 1 ∧
      (6148914691236517206 : UInt64) ≤ 6148914691236517207 ∧
      (q.page 6148914691236517206 3).offset ≤
        (q.page 6148914691236517207 3).offset := by
  intro q row
  have hsize : 1 ≤ (3 : UInt64) := by decide
  have hrow : row < 2 ^ 64 - 1 := by decide
  have hpages : (6148914691236517206 : UInt64) ≤ 6148914691236517207 := by
    decide
  have hlast : row / (3 : UInt64).toNat + 1 = 6148914691236517205 := by decide
  obtain ⟨hunique, -, hwindow, hmonotone⟩ := pages_tile q
  obtain ⟨page, hpage, -, hcovers, hothers⟩ := hunique 3 row hsize hrow
  refine ⟨hsize, hrow, ⟨page, hpage.trans hlast, hcovers, hothers⟩, ?_, ?_,
    hpages, hmonotone _ _ 3 hpages⟩
  · exact (hwindow 6148914691236517206 3).2
  · exact (hwindow 6148914691236517207 3).2

end Select

end GuardedSql
