import Mathlib.Algebra.Order.Field.Basic
import Mathlib.Algebra.Order.Field.Rat
import Mathlib.Tactic.Linarith
import Mathlib.Tactic.LinearCombination
import Mathlib.Tactic.NormNum
import Mathlib.Tactic.Ring
import ScoreSheet.Proofs.Binary.Codes

/-!
Rounding to a binary format gives the nearest code.  A number is rounded to a code if it
lies between the two midpoints of the code and its neighbours, and on a midpoint only if
the code is even; as codes are ordered as their values are, no other code is then nearer.
The significand that `Format.round` computes decides between neighbours in one binade,
and at the lower end of a binade the number is not below the code at all.
-/

namespace ScoreSheet
namespace Format

variable {format : Format}

/-- A number, in units of the least positive value, lies between the midpoints around a
code, and on one of them only if the code is even. -/
structure Nearest (format : Format) (exact : ℚ) (code : Nat) : Prop where
  below : 2 * exact ≤ format.units code + format.units (code + 1)
  above : ∀ previous, previous + 1 = code →
    (format.units previous : ℚ) + format.units code ≤ 2 * exact
  even_below : 2 * exact = format.units code + format.units (code + 1) → code % 2 = 0
  even_above : ∀ previous, previous + 1 = code →
    (format.units previous : ℚ) + format.units code = 2 * exact → code % 2 = 0

section

variable {exact : ℚ} {code other : Nat}

theorem units_cast_le (ordered : code ≤ other) :
    (format.units code : ℚ) ≤ format.units other := by
  exact_mod_cast format.units_strictMono.monotone ordered

theorem units_cast_lt (ordered : code < other) :
    (format.units code : ℚ) < format.units other := by
  exact_mod_cast format.units_strictMono ordered

theorem Nearest.distance_lt (nearest : format.Nearest exact code) (after : code < other) :
    |exact - format.units code| ≤ |exact - format.units other| ∧
      (|exact - format.units other| = |exact - format.units code| → code % 2 = 0) := by
  have low := nearest.below
  have next : (format.units (code + 1) : ℚ) ≤ format.units other := units_cast_le after
  have apart : (format.units code : ℚ) < format.units (code + 1) :=
    units_cast_lt (Nat.lt_succ_self code)
  have beyond : exact ≤ format.units other := by linarith
  rw [abs_of_nonpos (show exact - format.units other ≤ 0 by linarith)]
  rcases le_total (format.units code : ℚ) exact with above | below
  · rw [abs_of_nonneg (show 0 ≤ exact - format.units code by linarith)]
    exact ⟨by linarith, fun tie => nearest.even_below (by linarith)⟩
  · rw [abs_of_nonpos (show exact - format.units code ≤ 0 by linarith)]
    refine ⟨by linarith, fun tie => ?_⟩
    linarith

theorem Nearest.distance_gt (nearest : format.Nearest exact code) (before : other < code) :
    |exact - format.units code| ≤ |exact - format.units other| ∧
      (|exact - format.units other| = |exact - format.units code| → code % 2 = 0) := by
  obtain ⟨previous, rfl⟩ := Nat.exists_eq_add_one_of_ne_zero (Nat.ne_zero_of_lt before)
  have high := nearest.above previous rfl
  have last : (format.units other : ℚ) ≤ format.units previous :=
    units_cast_le (Nat.le_of_lt_succ before)
  have apart : (format.units previous : ℚ) < format.units (previous + 1) :=
    units_cast_lt (Nat.lt_succ_self previous)
  have beyond : (format.units other : ℚ) ≤ exact := by linarith
  rw [abs_of_nonneg (show 0 ≤ exact - format.units other by linarith)]
  rcases le_total (format.units (previous + 1) : ℚ) exact with above | below
  · rw [abs_of_nonneg (show 0 ≤ exact - format.units (previous + 1) by linarith)]
    refine ⟨by linarith, fun tie => ?_⟩
    linarith
  · rw [abs_of_nonpos (show exact - format.units (previous + 1) ≤ 0 by linarith)]
    exact ⟨by linarith, fun tie => nearest.even_above previous rfl (by linarith)⟩

theorem Nearest.distance_le (nearest : format.Nearest exact code) (other : Nat) :
    |exact - format.units code| ≤ |exact - format.units other| := by
  rcases Nat.lt_trichotomy code other with after | rfl | before
  · exact (nearest.distance_lt after).1
  · exact le_refl _
  · exact (nearest.distance_gt before).1

theorem Nearest.even_of_tie (nearest : format.Nearest exact code) (different : other ≠ code)
    (tie : |exact - format.units other| = |exact - format.units code|) : code % 2 = 0 := by
  rcases Nat.lt_or_gt_of_ne different with before | after
  · exact (nearest.distance_gt before).2 tie
  · exact (nearest.distance_lt after).2 tie

theorem Nearest.units_le (nearest : format.Nearest exact code) (positive : 0 ≤ exact) :
    (format.units code : ℚ) ≤ 2 * exact := by
  rcases Nat.eq_zero_or_eq_succ_pred code with rfl | successor
  · have zero : format.units 0 = 0 := format.units_of_subnormal format.leadingBit_pos
    rw [zero, Nat.cast_zero]
    linarith
  · have high := nearest.above code.pred successor.symm
    have none : (0 : ℚ) ≤ format.units code.pred := Nat.cast_nonneg _
    linarith

end

section

variable {shift significand : Nat}

theorem step_to_next (format : Format) (normal : shift = 0 ∨ format.leadingBit ≤ significand) :
    (2 : ℚ) ^ shift ≤ format.units (shift * format.leadingBit + significand + 1) -
      format.units (shift * format.leadingBit + significand) := by
  have steps : shift ≤ format.shift (shift * format.leadingBit + significand) :=
    format.le_shift (normal.imp_right fun full => by omega)
  rw [units_succ, Nat.cast_add, Nat.cast_pow, Nat.cast_ofNat, add_sub_cancel_left]
  exact pow_le_pow_right₀ one_le_two steps

theorem step_from_previous (format : Format) {previous : Nat}
    (precedes : previous + 1 = shift * format.leadingBit + significand)
    (inside : shift = 0 ∨ format.leadingBit < significand) :
    (2 : ℚ) ^ shift ≤ format.units (shift * format.leadingBit + significand) -
      format.units previous := by
  have steps : shift ≤ format.shift previous :=
    format.le_shift (inside.imp_right fun full => by omega)
  rw [← precedes, units_succ, Nat.cast_add, Nat.cast_pow, Nat.cast_ofNat, add_sub_cancel_left]
  exact pow_le_pow_right₀ one_le_two steps

theorem nearest_of_parts {exact : ℚ}
    (normal : shift = 0 ∨ format.leadingBit ≤ significand)
    (upTo : significand ≤ 2 * format.leadingBit)
    (started : shift ≠ 0 → (format.leadingBit : ℚ) * 2 ^ shift ≤ exact)
    (below : 2 * exact ≤ (2 * significand + 1) * 2 ^ shift)
    (above : 2 * significand * 2 ^ shift ≤ 2 * exact + 2 ^ shift)
    (even : 2 * exact = (2 * significand + 1) * 2 ^ shift ∨
      2 * significand * 2 ^ shift = 2 * exact + 2 ^ shift →
        (shift * format.leadingBit + significand) % 2 = 0) :
    format.Nearest exact (shift * format.leadingBit + significand) := by
  have value : (format.units (shift * format.leadingBit + significand) : ℚ) =
      significand * 2 ^ shift := by
    exact_mod_cast format.units_mul_add normal upTo
  have next := step_to_next format normal
  have before : ∀ previous, previous + 1 = shift * format.leadingBit + significand →
      (format.units previous : ℚ) + format.units (shift * format.leadingBit + significand) ≤
          2 * exact ∧
        ((format.units previous : ℚ) +
            format.units (shift * format.leadingBit + significand) = 2 * exact →
          (shift * format.leadingBit + significand) % 2 = 0) := by
    intro previous precedes
    by_cases inside : shift = 0 ∨ format.leadingBit < significand
    · have step := step_from_previous format precedes inside
      exact ⟨by linarith, fun tie => even (Or.inr (by linarith))⟩
    · -- The code begins a binade, and the number is not below it.
      rw [not_or, not_lt] at inside
      obtain rfl : significand = format.leadingBit :=
        Nat.le_antisymm inside.2 (normal.resolve_left inside.1)
      have reached := started inside.1
      have apart : (format.units previous : ℚ) <
          format.units (shift * format.leadingBit + format.leadingBit) :=
        units_cast_lt (by omega)
      exact ⟨by linarith, fun tie => by linarith⟩
  exact {
    below := by linarith
    above := fun previous precedes => (before previous precedes).1
    even_below := fun tie => even (Or.inl (by linarith))
    even_above := fun previous precedes => (before previous precedes).2 }

end

/-! ### The code that rounding finds -/

def roundShift (format : Format) (numerator denominator : Nat) : Nat :=
  (numerator * format.one / denominator).log2 - format.fractionBits

def roundSignificand (format : Format) (numerator denominator : Nat) : Nat :=
  roundQuotient (numerator * format.one)
    (denominator * 2 ^ format.roundShift numerator denominator)

/-- The code nearest to a quotient in a format whose exponents have no end. -/
def nearestCode (format : Format) (numerator denominator : Nat) : Nat :=
  format.roundShift numerator denominator * format.leadingBit +
    format.roundSignificand numerator denominator

theorem round_eq_min (format : Format) (numerator denominator : Nat) :
    format.round numerator denominator =
      min (format.nearestCode numerator denominator) format.infinity := by
  simp only [round, Nat.shiftLeft_eq]
  rfl

section

variable {numerator denominator : Nat}

theorem scaled_lt (positive : 0 < denominator) :
    numerator * format.one <
      2 * format.leadingBit * (denominator * 2 ^ format.roundShift numerator denominator) := by
  have below := (Nat.div_lt_iff_lt_mul positive).mp
    (Nat.lt_log2_self (n := numerator * format.one / denominator))
  have exponents : (numerator * format.one / denominator).log2 + 1 ≤
      1 + format.fractionBits + format.roundShift numerator denominator := by
    unfold roundShift
    omega
  have powers := Nat.mul_le_mul_right denominator (Nat.pow_le_pow_right Nat.two_pos exponents)
  calc
    numerator * format.one < _ := below
    _ ≤ _ := powers
    _ = _ := by
      rw [leadingBit_eq, Nat.pow_add, Nat.pow_add, Nat.pow_one, Nat.mul_assoc,
        Nat.mul_comm denominator]

theorem le_scaled (positive : 0 < denominator)
    (shifted : format.roundShift numerator denominator ≠ 0) :
    format.leadingBit * (denominator * 2 ^ format.roundShift numerator denominator) ≤
      numerator * format.one := by
  have nonzero : numerator * format.one / denominator ≠ 0 := by
    intro zero
    apply shifted
    rw [roundShift, zero]
    exact Nat.zero_sub _
  have above := (Nat.le_div_iff_mul_le positive).mp (Nat.log2_self_le nonzero)
  have exponents : (numerator * format.one / denominator).log2 =
      format.fractionBits + format.roundShift numerator denominator := by
    unfold roundShift at shifted ⊢
    omega
  rw [exponents, Nat.pow_add] at above
  rw [leadingBit_eq, Nat.mul_comm denominator, ← Nat.mul_assoc]
  exact above

theorem scaledDenominator_pos (positive : 0 < denominator) :
    0 < denominator * 2 ^ format.roundShift numerator denominator :=
  Nat.mul_pos positive (Nat.two_pow_pos _)

theorem nearestCode_even (wide : 0 < format.fractionBits)
    (even : format.roundSignificand numerator denominator % 2 = 0) :
    format.nearestCode numerator denominator % 2 = 0 := by
  have steps := format.mul_leadingBit_even wide (format.roundShift numerator denominator)
  rw [nearestCode]
  omega

theorem nearest_nearestCode (wide : 0 < format.fractionBits) (positive : 0 < denominator) :
    format.Nearest (numerator * format.one / denominator)
      (format.nearestCode numerator denominator) := by
  have scaledPositive : 0 < denominator * 2 ^ format.roundShift numerator denominator :=
    scaledDenominator_pos positive
  have low : (2 : ℚ) * (numerator * format.one) ≤
      (2 * format.roundSignificand numerator denominator + 1) *
        (denominator * 2 ^ format.roundShift numerator denominator) := by
    exact_mod_cast two_mul_le_roundQuotient (numerator * format.one) scaledPositive
  have high : (2 : ℚ) * format.roundSignificand numerator denominator *
        (denominator * 2 ^ format.roundShift numerator denominator) ≤
      2 * (numerator * format.one) +
        denominator * 2 ^ format.roundShift numerator denominator := by
    exact_mod_cast roundQuotient_le_two_mul (numerator * format.one) scaledPositive
  have scale : (0 : ℚ) < denominator := by exact_mod_cast positive
  have whole : (numerator * format.one / denominator : ℚ) * denominator =
      numerator * format.one := div_mul_cancel₀ _ scale.ne'
  apply nearest_of_parts
  · by_cases shifted : format.roundShift numerator denominator = 0
    · exact Or.inl shifted
    · exact Or.inr (le_roundQuotient scaledPositive (le_scaled positive shifted))
  · exact roundQuotient_le scaledPositive (scaled_lt positive)
  · intro shifted
    have started : (format.leadingBit : ℚ) *
        (denominator * 2 ^ format.roundShift numerator denominator) ≤
          numerator * format.one := by
      exact_mod_cast le_scaled positive shifted
    rw [le_div_iff₀ scale]
    linarith
  · apply le_of_mul_le_mul_right _ scale
    linarith
  · apply le_of_mul_le_mul_right _ scale
    linarith
  · intro tie
    apply nearestCode_even wide
    apply roundQuotient_even_of_tie scaledPositive
    rcases tie with tie | tie
    · left
      have scaled : (2 : ℚ) * (numerator * format.one) =
          (2 * format.roundSignificand numerator denominator + 1) *
            (denominator * 2 ^ format.roundShift numerator denominator) := by
        linear_combination (denominator : ℚ) * tie - 2 * whole
      exact_mod_cast scaled
    · right
      have scaled : (2 : ℚ) * format.roundSignificand numerator denominator *
            (denominator * 2 ^ format.roundShift numerator denominator) =
          2 * (numerator * format.one) +
            denominator * 2 ^ format.roundShift numerator denominator := by
        linear_combination (denominator : ℚ) * tie + 2 * whole
      exact_mod_cast scaled

end

end Format
end ScoreSheet
