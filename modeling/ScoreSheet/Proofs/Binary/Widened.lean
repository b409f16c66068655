import ScoreSheet.Decimal.Text
import ScoreSheet.Proofs.Binary.Exact

/-!
Numbers of a format in a wider one.  Every finite number has a code there with the same value,
and rounding gives this code, so that widening numbers of 32 bits to 64 bits loses nothing.
-/

namespace ScoreSheet
namespace Format

/-- Every finite number of a format is one of a wider format, with finite codes above it there.
The least positive value is `2 ^ extra` times smaller. -/
structure Wider (narrow wide : Format) (extra : Nat) : Prop where
  fits : narrow.leadingBit ≤ wide.leadingBit
  finer : wide.fineness = narrow.fineness + extra
  ranged : narrow.exponentLimit + extra < wide.exponentLimit

theorem wider_binary64 : binary32.Wider binary64 925 := ⟨by decide, by decide, by decide⟩

namespace Wider

variable {narrow wide : Format} {extra code : Nat}

theorem one_eq (wider : narrow.Wider wide extra) : wide.one = narrow.one * 2 ^ extra := by
  rw [one, one, Nat.one_shiftLeft, Nat.one_shiftLeft, wider.finer, Nat.pow_add]

theorem exists_code (wider : narrow.Wider wide extra) (regular : narrow.Regular)
    (finite : code < narrow.infinity) :
    ∃ other, wide.units other = narrow.units code * 2 ^ extra ∧ other + 1 < wide.infinity := by
  have narrowed : narrow.significand code ≤ 2 * wide.leadingBit :=
    (narrow.significand_lt code).le.trans (Nat.mul_le_mul_left 2 wider.fits)
  obtain ⟨other, same⟩ := wide.exists_units_eq (narrow.shift code + extra) narrowed
  have units : wide.units other = narrow.units code * 2 ^ extra := by
    rw [same, Nat.pow_add, ← Nat.mul_assoc, ← units_eq]
  refine ⟨other, units, ?_⟩
  have ranged := wider.ranged
  have narrowRanged := regular.ranged
  have top : wide.units ((narrow.exponentLimit - 1 + extra) * wide.leadingBit + wide.leadingBit) =
      wide.leadingBit * 2 ^ (narrow.exponentLimit - 1 + extra) :=
    wide.units_mul_add (Or.inr le_rfl) (by omega)
  have below : other < (narrow.exponentLimit - 1 + extra) * wide.leadingBit + wide.leadingBit := by
    apply wide.units_strictMono.lt_iff_lt.mp
    rw [units, top, Nat.pow_add, ← Nat.mul_assoc]
    apply Nat.mul_lt_mul_of_pos_right _ (Nat.two_pow_pos extra)
    have finiteUnits := narrow.units_strictMono finite
    rw [regular.units_infinity] at finiteUnits
    exact finiteUnits.trans_le (Nat.mul_le_mul_right _ wider.fits)
  have last : (narrow.exponentLimit - 1 + extra) * wide.leadingBit + wide.leadingBit <
      wide.infinity := by
    rw [← Nat.succ_mul, infinity]
    exact Nat.mul_lt_mul_of_pos_right (by omega) wide.leadingBit_pos
  omega

theorem round_units (wider : narrow.Wider wide extra) (regular : narrow.Regular)
    (wideRegular : wide.Regular) (finite : code < narrow.infinity) :
    wide.round (narrow.units code) narrow.one + 1 < wide.infinity ∧
      (wide.units (wide.round (narrow.units code) narrow.one) : ℚ) / wide.one =
        narrow.units code / narrow.one := by
  obtain ⟨other, units, below⟩ := wider.exists_code regular finite
  have scale := narrow.one_cast_pos
  have factor : (0 : ℚ) < 2 ^ extra := by positivity
  have one : (wide.one : ℚ) = narrow.one * 2 ^ extra := by exact_mod_cast wider.one_eq
  have unitsCast : (wide.units other : ℚ) = narrow.units code * 2 ^ extra := by
    exact_mod_cast units
  have exact : (narrow.units code : ℚ) * wide.one / narrow.one = wide.units other := by
    rw [one, unitsCast, ← mul_assoc, mul_right_comm, mul_div_cancel_right₀ _ scale.ne']
  have nearest : wide.Nearest (narrow.units code * wide.one / narrow.one)
      (wide.nearestCode (narrow.units code) narrow.one) :=
    nearest_nearestCode wideRegular.wide narrow.one_pos
  rw [exact] at nearest
  have same := nearest.unique (wide.nearest_units other)
  rw [round_eq_min, same, Nat.min_eq_left (by omega)]
  refine ⟨below, ?_⟩
  rw [unitsCast, one, mul_div_mul_right _ _ factor.ne']

end Wider
end Format

namespace Binary32

variable {value : Binary32}

theorem widened_lt (finite : value.isFinite = true) :
    value.widened + 1 < Format.binary64.infinity :=
  (Format.wider_binary64.round_units Format.regular_binary32 Format.regular_binary64
    (value.isFinite_iff.mp finite)).1

theorem signed_widened (finite : value.isFinite = true) :
    Format.binary64.signed value.isNegative value.widened = value.toRat := by
  have same := (Format.wider_binary64.round_units Format.regular_binary32 Format.regular_binary64
    (value.isFinite_iff.mp finite)).2
  exact congrArg (withSign value.isNegative) same

end Binary32
end ScoreSheet
