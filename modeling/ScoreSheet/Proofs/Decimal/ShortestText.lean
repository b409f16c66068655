import ScoreSheet.Proofs.Binary.Widened
import ScoreSheet.Proofs.Decimal.PlainText
import ScoreSheet.Proofs.Decimal.Shortest

/-!
The shortest text of a number of 32 bits.  Where it is written without a power of ten, it is a
plain decimal that gives the number with the same value among those of 64 bits, and no decimal
with fewer digits gives this one.  So different numbers have different texts.
-/

namespace ScoreSheet

/-- A number that so many digits are enough for, under a sign and up to its power of ten. -/
def HasDigits (count : Nat) (number : ℚ) : Prop :=
  ∃ decimal : Decimal, decimal.digits < 10 ^ count ∧ |number| = decimal.toRat

/-- A text that tells a number of 32 bits: a plain decimal of which the size is rounded to the
code of 64 bits with the value of the number. No number that fewer digits are enough for is
rounded to this code. -/
structure Tells (value : Binary32) (size : ℚ) (code : Nat) (text : String) : Prop where
  written : WritesPlain value.isNegative size text.toList
  same : Format.binary64.signed value.isNegative code = value.toRat
  reads : Format.binary64.IsNearest (withSign value.isNegative size) value.isNegative code
  fewest : ∀ count other, HasDigits count other →
    Format.binary64.IsNearest other value.isNegative code → HasDigits count size

namespace Decimal

variable {format : Format} {code count : Nat} {negative : Bool} {other : ℚ}

theorem isNearest_shortest (regular : format.Regular) (negative : Bool)
    (finite : code < format.infinity) :
    format.IsNearest (withSign negative (shortest format code).toRat) negative code :=
  Format.isNearest_of_nearest regular.wide negative (toRat_nonneg _) finite
    ((round_eq_iff regular finite).mp (round_shortest regular finite))

theorem hasDigits_shortest (regular : format.Regular) (inside : code + 1 < format.infinity)
    (digits : HasDigits count other) (nearest : format.IsNearest other negative code) :
    HasDigits count (shortest format code).toRat := by
  have finite : code < format.infinity := by omega
  refine ⟨shortest format code, ?_, abs_of_nonneg (toRat_nonneg _)⟩
  rcases Nat.eq_zero_or_pos code with rfl | positive
  · exact Nat.pow_pos (by decide)
  · obtain ⟨decimal, few, size⟩ := digits
    have near := nearest.nearest_size regular.wide positive inside
    rw [size] at near
    exact digits_shortest_lt regular finite ((round_eq_iff regular finite).mpr near) few

end Decimal

namespace Binary32

variable {value other : Binary32}

theorem isScientific_eq_false (below : |value.toRat| < 10 ^ 16)
    (least : value.toRat = 0 ∨ 1 / 10 ^ 4 ≤ |value.toRat|) : value.isScientific = false := by
  have scale := one_cast_pos
  have size := abs_toRat value
  apply decide_eq_false
  rintro (large | ⟨some, small⟩)
  · have largeCast : (10 ^ 16 * Format.binary32.one : ℚ) ≤ value.units := by
      exact_mod_cast (show 10 ^ 16 * Format.binary32.one ≤ value.units from large)
    rw [size, div_lt_iff₀ scale] at below
    linarith
  · have smallCast : (10 ^ 4 * value.units : ℚ) < Format.binary32.one := by
      exact_mod_cast (show 10 ^ 4 * value.units < Format.binary32.one from small)
    have someCast : (0 : ℚ) < value.units := by exact_mod_cast some
    rcases least with none | atLeast
    · rw [none, abs_zero] at size
      have positive := div_pos someCast scale
      linarith
    · rw [size, le_div_iff₀ scale] at atLeast
      linarith

theorem toShortestText_eq (finite : value.isFinite = true) (plain : value.isScientific = false) :
    value.toShortestText = (if value.isNegative then "-" else "") ++
      (Decimal.shortest Format.binary64 value.widened).plainText := by
  simp only [toShortestText, isNaN_of_finite finite, isInfinite_of_finite finite, plain,
    Bool.false_eq_true, if_false]

theorem tells_toShortestText (finite : value.isFinite = true)
    (plain : value.isScientific = false) :
    Tells value (Decimal.shortest Format.binary64 value.widened).toRat value.widened
      value.toShortestText where
  written := by
    rw [toShortestText_eq finite plain]
    exact writesPlain_plainText value.isNegative _
  same := signed_widened finite
  reads := Decimal.isNearest_shortest Format.regular_binary64 _
    (Nat.lt_of_succ_lt (widened_lt finite))
  fewest _ _ digits nearest :=
    Decimal.hasDigits_shortest Format.regular_binary64 (widened_lt finite) digits nearest

theorem toShortestText_inj (finite : value.isFinite = true) (otherFinite : other.isFinite = true)
    (plain : value.isScientific = false) (otherPlain : other.isScientific = false) :
    value.toShortestText = other.toShortestText ↔ value = other := by
  refine ⟨fun texts => ?_, congrArg toShortestText⟩
  have written := (tells_toShortestText finite plain).written
  rw [texts] at written
  obtain ⟨signs, sizes⟩ := written.unique (tells_toShortestText otherFinite otherPlain).written
  have regular := Format.regular_binary64
  have inside := Nat.lt_of_succ_lt (widened_lt finite)
  have otherInside := Nat.lt_of_succ_lt (widened_lt otherFinite)
  have nearest := (Decimal.round_eq_iff regular inside).mp (Decimal.round_shortest regular inside)
  have otherNearest :=
    (Decimal.round_eq_iff regular otherInside).mp (Decimal.round_shortest regular otherInside)
  rw [sizes] at nearest
  apply eq_of_toRat signs
  rw [← signed_widened finite, ← signed_widened otherFinite, signs, nearest.unique otherNearest]

end Binary32
end ScoreSheet
