import ScoreSheet.Decimal.Literal
import ScoreSheet.Proofs.Binary.Order
import ScoreSheet.Proofs.Binary.Precision
import ScoreSheet.Proofs.Decimal.Rounding

/-!
The number of 32 bits that a literal is read as.  A decimal is rounded from the exact number that
is written: to the nearest number with a tie to the even significand, from the middle above the
largest finite number on to infinity, and close to zero with a fixed step down to zero itself.
The sign is the one that is written, also on a zero.
-/

namespace ScoreSheet

theorem Format.Nearest.abs_sub_le_half {format : Format} {exact : ℚ} {code : Nat}
    (nearest : format.Nearest exact code) (positive : 0 ≤ exact)
    (small : exact ≤ format.leadingBit) : |exact - format.units code| ≤ 1 / 2 := by
  have upTo : code ≤ format.leadingBit := by
    apply nearest.le (format.nearest_units format.leadingBit)
    rwa [format.units_leadingBit]
  have step : ∀ other, other ≤ format.leadingBit →
      (format.units (other + 1) : ℚ) = format.units other + 1 := by
    intro other least
    have shift := format.shift_mono least
    rw [Format.shift, Format.shift, Nat.div_self format.leadingBit_pos] at shift
    have unshifted : format.shift other = 0 := Nat.le_zero.mp shift
    rw [format.units_succ_cast, unshifted, pow_zero]
  have low := nearest.below
  rw [step code upTo] at low
  rw [abs_le]
  refine ⟨?_, by linarith⟩
  cases code with
  | zero =>
      rw [format.units_zero, Nat.cast_zero]
      linarith
  | succ previous =>
      have high := nearest.above previous rfl
      rw [step previous (by omega)] at high ⊢
      linarith

namespace Binary32

theorem overflow_eq : Format.binary32.overflow = 2 ^ 128 - 2 ^ 103 := by
  have step : Format.binary32.shift (Format.binary32.infinity - 1) = 253 := by decide +kernel
  have next := Format.binary32.units_succ_cast (Format.binary32.infinity - 1)
  rw [Nat.sub_add_cancel (by decide), step, units_infinity, one_cast] at next
  rw [Format.overflow, units_infinity, one_cast, eq_sub_of_add_eq next.symm]
  norm_num

/-- A number that is rounded once from a size under a sign. -/
structure RoundsOnce (negative : Bool) (size : ℚ) (value : Binary32) : Prop where
  sign : value.isNegative = negative
  nearest : size < 2 ^ 128 - 2 ^ 103 →
    Format.binary32.IsNearest (withSign negative size) negative value.magnitude
  infinite : 2 ^ 128 - 2 ^ 103 ≤ size → value = infinity negative
  subnormal : size ≤ 1 / 2 ^ 126 → |withSign negative size - value.toRat| ≤ 1 / 2 ^ 150
  zero : value = zero negative ↔ size ≤ 1 / 2 ^ 150

end Binary32

namespace Literal

theorem toBinary32_roundsOnce (negative : Bool) (decimal : Decimal) :
    Binary32.RoundsOnce negative decimal.toRat (toBinary32 ⟨negative, .decimal decimal⟩) := by
  have regular := Format.regular_binary32
  obtain ⟨code, nearest, rounded⟩ := decimal.exists_nearest_round regular
  have bounded : decimal.round Format.binary32 < Binary32.signBit :=
    (decimal.round_le_infinity regular).trans_lt (by decide)
  have magnitude : (toBinary32 ⟨negative, .decimal decimal⟩).magnitude =
      decimal.round Format.binary32 := Binary32.magnitude_ofMagnitude negative bounded
  have sign : (toBinary32 ⟨negative, .decimal decimal⟩).isNegative = negative :=
    Binary32.isNegative_ofMagnitude negative bounded
  refine ⟨sign, ?_, ?_, ?_, ?_⟩
  · rw [magnitude, ← Binary32.overflow_eq]
    exact decimal.isNearest_round regular negative
  · rw [← Binary32.overflow_eq]
    intro large
    exact congrArg (Binary32.ofMagnitude negative) (decimal.round_eq_infinity regular large)
  · intro small
    have scaled : decimal.toRat * Format.binary32.one ≤ Format.binary32.leadingBit := by
      rw [Binary32.one_cast, Binary32.leadingBit_cast]
      linarith
    have finite := (regular.lt_infinity_iff nearest).mpr
      (by rw [Binary32.overflow_eq]; linarith)
    have half := nearest.abs_sub_le_half
      (mul_nonneg decimal.toRat_nonneg Format.binary32.one_cast_pos.le) scaled
    rw [Binary32.toRat_eq_signed, sign, magnitude, rounded, Nat.min_eq_left finite.le,
      Format.signed, withSign_sub_withSign]
    rw [← Format.distance_mul_one, Binary32.one_cast] at half
    rw [Binary32.one_cast]
    linarith
  · have parts : toBinary32 ⟨negative, .decimal decimal⟩ = Binary32.zero negative ↔
        decimal.round Format.binary32 = 0 := by
      constructor
      · intro same
        rw [← magnitude, same]
        exact Binary32.magnitude_ofMagnitude negative (by decide)
      · intro none
        exact congrArg (Binary32.ofMagnitude negative) none
    have infinite := regular.infinity_pos
    have least : min code Format.binary32.infinity = 0 ↔ code = 0 := by omega
    rw [parts, rounded, least, nearest.eq_zero_iff, Binary32.one_cast]
    constructor
    · intro small
      linarith
    · intro small
      linarith

end Literal
end ScoreSheet
