import Mathlib.Algebra.Group.Nat.Defs
import Mathlib.Data.Nat.Basic
import Mathlib.Tactic.SplitIfs

/-!
# Whole parts in double precision

A number in double precision that is cut off to an integer of 64 bits is zero
exactly if it is not at least one: the negative numbers, the fractions below one
and what is no number all go to zero.
-/

namespace GuardedSql.Decimal

open Float.Model (Format UnpackedFloat)
open Float.Model.UnpackedFloat (Sign ExtendedMantissa)

theorem unpack_one :
    (1 : Float).toModel.unpack =
      .finite .positive (2 ^ 52) (-52) (by decide) := by
  have hbits : (1 : Float).toModel.toBits = 0x3FF0000000000000 := by
    decide +kernel
  rw [Float.Model.unpack, hbits]
  rfl

theorem mantissa_shiftRight (m : ExtendedMantissa) (places : Nat) :
    (m >>> places).mantissa = m.mantissa / 2 ^ places := by
  induction places with
  | zero => exact (Nat.div_one _).symm
  | succ places ih =>
      have hstep : (m >>> (places + 1)).mantissa =
          (m >>> places).mantissa / 2 := rfl
      rw [hstep, ih, Nat.div_div_eq_div_mul, Nat.pow_succ]

/-- A finite number is cut off to the quotient of its mantissa, without regard
to the sign. -/
theorem roundToInt_eq (s : Sign) (m : Nat) (e : Int) :
    UnpackedFloat.roundToInt s m e =
      s.apply (m * 2 ^ e.toNat / 2 ^ (-e).toNat : Nat) := by
  rw [UnpackedFloat.roundToInt]
  simp only [UnpackedFloat.decreaseExponent, UnpackedFloat.shiftToExponent,
    mantissa_shiftRight, ExtendedMantissa.ofMantissaAndAccuracy,
    Nat.shiftLeft_eq]
  have hleft : (e - 0).toNat = e.toNat := by omega
  have hright : (0 - (e - ((e - 0).toNat : Int))).toNat = (-e).toNat := by omega
  rw [hright, hleft]

/-- A finite number in double precision is in normal form unless its exponent is
the least one. -/
theorem normal_of_unpack {b : BitVec 64} {s : Sign} {m : Nat} {e : Int}
    {hm : 0 < m}
    (h : UnpackedFloat.unpack Format.binary64 b = .finite s m e hm) :
    m < 2 ^ 53 ∧ (-1074 < e → 2 ^ 52 ≤ m) := by
  have hlt := (@UnpackedFloat.unpackMantissa Format.binary64 b).isLt
  have hbound : 2 ^ Format.binary64.mantissaBitsWithoutImplicit = 2 ^ 52 := rfl
  unfold UnpackedFloat.unpack at h
  dsimp only at h
  by_cases hspecial : @UnpackedFloat.unpackExponent Format.binary64 b = -1#_
  · rw [if_pos hspecial] at h
    by_cases hinfinite : @UnpackedFloat.unpackMantissa Format.binary64 b = 0#_
    · rw [if_pos hinfinite] at h
      injection h
    · rw [if_neg hinfinite] at h
      injection h
  rw [if_neg hspecial] at h
  by_cases hsubnormal : @UnpackedFloat.unpackExponent Format.binary64 b = 0#_
  · rw [if_pos hsubnormal] at h
    by_cases hzero : @UnpackedFloat.unpackMantissa Format.binary64 b = 0#_
    · rw [dif_pos hzero] at h
      injection h
    · rw [dif_neg hzero] at h
      injection h with _ hmantissa hexponent
      rw [hmantissa] at hlt
      rw [hsubnormal] at hexponent
      have he : -1074 = e := hexponent
      exact ⟨by omega, by omega⟩
  · rw [if_neg hsubnormal] at h
    injection h with _ hmantissa hexponent
    rw [BitVec.toNat_append, ← Nat.shiftLeft_add_eq_or_of_lt hlt] at hmantissa
    have hone : (1#1).toNat <<< Format.binary64.mantissaBitsWithoutImplicit =
        2 ^ 52 := rfl
    rw [hone] at hmantissa
    exact ⟨by omega, by omega⟩

theorem ofNatClamp_eq_zero_iff (n : Nat) : UInt64.ofNatClamp n = 0 ↔ n = 0 := by
  rw [UInt64.ofNatClamp]
  split_ifs with h
  · rw [← UInt64.toNat_inj, UInt64.toNat_ofNatLT]
    rfl
  · constructor
    · intro hmax
      exact absurd hmax (by decide)
    · rintro rfl
      exact absurd (by decide) h

/-- A positive number in normal form has a whole part exactly if its exponent, or
else its mantissa, is at least that of one. -/
theorem wholePart_ne_zero_iff {m : Nat} {e : Int} (hm : 0 < m)
    (hlt : m < 2 ^ 53) (hnormal : -1074 < e → 2 ^ 52 ≤ m) :
    m * 2 ^ e.toNat / 2 ^ (-e).toNat ≠ 0 ↔
      -52 < e ∨ -52 = e ∧ 2 ^ 52 ≤ m := by
  rw [Nat.div_ne_zero_iff]
  by_cases hlarge : -52 ≤ e
  · have hm52 : 2 ^ 52 ≤ m := hnormal (by omega)
    have hpow : 2 ^ (-e).toNat ≤ 2 ^ 52 :=
      Nat.pow_le_pow_right (by decide) (by omega)
    have hmul : m * 1 ≤ m * 2 ^ e.toNat :=
      Nat.mul_le_mul_left m (Nat.two_pow_pos _)
    constructor
    · intro _
      omega
    · intro _
      exact ⟨Nat.ne_of_gt (Nat.two_pow_pos _), by omega⟩
  · have hzero : e.toNat = 0 := by omega
    have hpow : 2 ^ 53 ≤ 2 ^ (-e).toNat :=
      Nat.pow_le_pow_right (by decide) (by omega)
    rw [hzero, Nat.pow_zero, Nat.mul_one]
    constructor
    · rintro ⟨-, hle⟩
      omega
    · intro _
      omega

theorem le_finite_positive_iff {m m' : Nat} {e e' : Int} {hm : 0 < m}
    {hm' : 0 < m'} :
    UnpackedFloat.le (.finite .positive m e hm) (.finite .positive m' e' hm') =
        true ↔ e < e' ∨ e = e' ∧ m ≤ m' := by
  change ((compare e e').then (compare m m')).isLE = true ↔ _
  rw [Ordering.isLE_then_iff_or, Int.compare_eq_lt, Int.compare_eq_eq,
    Nat.isLE_compare]

/-- What is cut off to zero is not at least one, whatever kind of number it
is. -/
theorem toUInt64_ne_zero_iff (y : Float) : y.toUInt64 ≠ 0 ↔ 1 ≤ y := by
  have hle : 1 ≤ y ↔ UnpackedFloat.le
      (.finite .positive (2 ^ 52) (-52) (by decide)) y.toModel.unpack = true := by
    rw [← unpack_one]
    exact decide_eq_true_iff
  have hwhole : y.toUInt64 ≠ 0 ↔
      (y.toModel.unpack.toInt 0 (UInt64.size - 1)).toNat ≠ 0 :=
    (ofNatClamp_eq_zero_iff _).not
  rw [hle, hwhole]
  rcases hy : y.toModel.unpack with (_ | _) | _ | _ | ⟨_ | _, m, e, hm⟩
  · decide
  · decide
  · decide
  · exact iff_of_false (fun h => h rfl) nofun
  · have hzero : (UnpackedFloat.roundToInt .negative m e).toNat = 0 := by
      rw [roundToInt_eq]
      exact Int.toNat_neg_natCast _
    exact iff_of_false (fun h => h hzero) nofun
  · obtain ⟨hlt, hnormal⟩ := normal_of_unpack hy
    have hquotient : (UnpackedFloat.roundToInt .positive m e).toNat =
        m * 2 ^ e.toNat / 2 ^ (-e).toNat := by
      rw [roundToInt_eq]
      exact Int.toNat_natCast _
    change (UnpackedFloat.roundToInt .positive m e).toNat ≠ 0 ↔ _
    rw [hquotient, le_finite_positive_iff]
    exact wholePart_ne_zero_iff hm hlt hnormal

end GuardedSql.Decimal
