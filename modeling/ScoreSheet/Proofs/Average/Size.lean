import ScoreSheet.Proofs.Average.Accuracy
import ScoreSheet.Proofs.Average.Script
import ScoreSheet.Proofs.Binary.Order
import ScoreSheet.Proofs.Binary.RoundsTo

/-!
Which numbers an average can be.  A sum is at most `2 ^ 31` in size for each value.  Rounding
keeps that bound although it may enlarge the sum and lessen the count, because `2 ^ 31` times
the count is rounded to `2 ^ 31` times what the count is rounded to.  A sum other than zero is
at least one in size, and the count is too small to bring the quotient near the subnormal
numbers.  So an average is a normal number with the sign of the sum, or zero without a sign.
-/

namespace ScoreSheet
namespace Binary32

def isSubnormal (value : Binary32) : Bool :=
  decide (0 < value.magnitude ∧ value.magnitude < Format.binary32.leadingBit)

section

variable {value : Binary32}

theorem abs_toRat_lt_of_isSubnormal (subnormal : value.isSubnormal = true) :
    |value.toRat| < 1 / 2 ^ 126 := by
  have less : (Format.binary32.units value.magnitude : ℚ) <
      Format.binary32.units Format.binary32.leadingBit :=
    Format.units_cast_lt (of_decide_eq_true subnormal).2
  have scaled : (1 / 2 ^ 126 * 2 ^ 149 : ℚ) = 2 ^ 23 := by norm_num
  rw [Format.units_leadingBit, leadingBit_cast] at less
  rw [abs_toRat, div_lt_iff₀ one_cast_pos, one_cast, scaled]
  exact less

theorem eq_zero_of_toRat (none : value.toRat = 0) : value = zero value.isNegative :=
  eq_of_toRat (isNegative_ofMagnitude value.isNegative (by decide)).symm
    (none.trans (toRat_zero value.isNegative).symm)

theorem isSubnormal_zero (negative : Bool) : (zero negative).isSubnormal = false := by
  cases negative <;> decide

end

end Binary32

namespace Average

open Binary32 (RoundsTo)

namespace Rounded

variable {values : List Int32} {sum count average : Binary32}

theorem isNegative_iff (rounded : Rounded values sum count average) :
    average.isNegative = true ↔ exactSum values < 0 :=
  rounded.sign.trans rounded.exactMean_neg_iff

theorem abs_sum_le_count (rounded : Rounded values sum count average) :
    |sum.toRat| ≤ 2 ^ 31 * count.toRat := by
  obtain ⟨lower, upper⟩ := exactSum_bounds values
  have atLeast := one_le_length rounded.nonempty
  have atMost := rounded.length_le
  have small : |2 ^ 31 * (values.length : ℚ)| < 2 ^ 127 := by
    rw [abs_of_nonneg (by linarith)]
    linarith
  obtain ⟨most, rounds⟩ := Binary32.exists_roundsTo small
  have scaled : most.toRat = 2 ^ 31 * count.toRat := by
    apply rounded.count_rounds.toRat_scale rounds _ small
    rw [Nat.abs_cast]
    linarith
  have lowerCast : (-(2 ^ 31 * values.length) : ℚ) ≤ exactSum values := by
    exact_mod_cast (by omega : -(2 ^ 31 * (values.length : Int)) ≤ exactSum values)
  have upperCast : (exactSum values : ℚ) ≤ 2 ^ 31 * values.length := by
    exact_mod_cast (by omega : exactSum values ≤ 2 ^ 31 * (values.length : Int))
  have above := rounded.sum_rounds.mono rounds upperCast
  have below := (rounds.neg (by linarith)).mono rounded.sum_rounds lowerCast
  rw [Binary32.toRat_flipSign, scaled] at below
  rw [scaled] at above
  exact abs_le.mpr ⟨below, above⟩

theorem abs_average_le (rounded : Rounded values sum count average) :
    |average.toRat| ≤ 2 ^ 31 := by
  have quotient : |sum.toRat / count.toRat| ≤ 2 ^ 31 := by
    rw [abs_div, abs_of_pos rounded.count_pos, div_le_iff₀ rounded.count_pos]
    exact rounded.abs_sum_le_count
  exact rounded.rounds.abs_toRat_le (Binary32.representable_two_pow (by decide)) quotient

/-- An average that is not zero is not much smaller than one over the number of values. -/
theorem length_le_abs_average (rounded : Rounded values sum count average)
    (nonzero : exactSum values ≠ 0) : 1 / (2 * values.length) ≤ |average.toRat| := by
  have atLeast := one_le_abs_exactSum nonzero
  have positive := rounded.length_pos
  have close := (rounded.within nonzero).right_le
  rw [Binary32.roundingFactor_eq, exactMean, abs_div, Nat.abs_cast, div_le_iff₀ positive] at close
  rw [div_le_iff₀ (by linarith)]
  linarith

theorem le_abs_average (rounded : Rounded values sum count average)
    (nonzero : exactSum values ≠ 0) : 1 / 2 ^ 33 ≤ |average.toRat| := by
  have positive := rounded.length_pos
  have atMost := rounded.length_le
  apply le_trans _ (rounded.length_le_abs_average nonzero)
  rw [div_le_div_iff₀ (by norm_num) (by linarith)]
  linarith

theorem isSubnormal_eq_false (rounded : Rounded values sum count average) :
    average.isSubnormal = false := by
  by_cases zero : exactSum values = 0
  · rw [Binary32.eq_zero_of_toRat (rounded.eq_zero zero)]
    exact Binary32.isSubnormal_zero _
  · have least := rounded.le_abs_average zero
    rw [← Bool.not_eq_true]
    intro subnormal
    have less := Binary32.abs_toRat_lt_of_isSubnormal subnormal
    linarith

theorem eq_zero_iff (rounded : Rounded values sum count average) :
    average = Binary32.zero false ↔ exactSum values = 0 := by
  constructor
  · intro same
    by_contra nonzero
    have least := rounded.le_abs_average nonzero
    rw [same, Binary32.toRat_zero, abs_zero] at least
    linarith
  · intro zero
    have unsigned : average.isNegative = false := by
      rw [← Bool.not_eq_true, rounded.isNegative_iff]
      omega
    rw [Binary32.eq_zero_of_toRat (rounded.eq_zero zero), unsigned]

end Rounded
end Average

namespace AverageStep

theorem foldl_apply_ofList (steps : List AverageStep) (held : List Int32) :
    steps.foldl apply (Average.ofList held) = Average.ofList (steps.foldl holds held) := by
  induction steps generalizing held with
  | nil => rfl
  | cons step rest ih =>
      rw [List.foldl_cons, List.foldl_cons, apply_ofList]
      exact ih (step.holds held)

theorem finalState_eq_ofList (steps : List AverageStep) :
    finalState steps = Average.ofList (finalValues steps) :=
  foldl_apply_ofList steps []

/-- After a script that ends with at least one and at most `2 ^ 32` values held, whatever it
held before, the state is exact and the average is a normal number with the sign of their sum
and at most `2 ^ 31` in size, or zero without a sign, exactly if that sum is zero. -/
theorem average?_finalState_normal {steps : List AverageStep} (nonempty : finalValues steps ≠ [])
    (few : (finalValues steps).length ≤ 2 ^ 32) :
    (finalState steps).Holds (finalValues steps) ∧
    ∃ average, (finalState steps).average? = .ok average ∧
      average.isFinite = true ∧ average.isNaN = false ∧ average.isInfinite = false ∧
      average.isSubnormal = false ∧ average ≠ Binary32.zero true ∧
      (average = Binary32.zero false ↔ exactSum (finalValues steps) = 0) ∧
      (average.isNegative = true ↔ exactSum (finalValues steps) < 0) ∧
      |average.toRat| ≤ 2 ^ 31 := by
  have rounded := Average.rounded_div nonempty few
  have holds := Average.holds_ofList _ few
  rw [← finalState_eq_ofList] at holds
  have computed := holds.average?_eq
  rw [if_neg nonempty] at computed
  have finite := rounded.rounds.finite
  refine ⟨holds, _, computed, finite, Binary32.isNaN_of_finite finite,
    Binary32.isInfinite_of_finite finite, rounded.isSubnormal_eq_false, ?_, rounded.eq_zero_iff,
    rounded.isNegative_iff, rounded.abs_average_le⟩
  intro same
  have sign := rounded.isNegative_iff
  rw [same] at sign
  have nonzero : exactSum (finalValues steps) ≠ 0 := (sign.mp (by decide)).ne
  have least := rounded.le_abs_average nonzero
  rw [same, Binary32.toRat_zero, abs_zero] at least
  linarith

/-- The sum of `2 ^ 32` greatest values is rounded up to `2 ^ 63`, and its average to `2 ^ 31`,
which is the largest size there is. -/
theorem average?_finalState_normal_of_copies :
    finalValues [.push 1, .collect [-5], .reset, .copies 2147483647 4294967296] ≠ [] ∧
      (finalValues [.push 1, .collect [-5], .reset, .copies 2147483647 4294967296]).length ≤
        2 ^ 32 ∧
      (finalState [.push 1, .collect [-5], .reset, .copies 2147483647 4294967296]).average? =
          .ok ⟨0x4f000000⟩ ∧
      (⟨0x4f000000⟩ : Binary32).isSubnormal = false ∧
      |(⟨0x4f000000⟩ : Binary32).toRat| ≤ 2 ^ 31 := by
  have held : finalValues [.push 1, .collect [-5], .reset, .copies 2147483647 4294967296] =
      List.replicate 4294967296 2147483647 := rfl
  have nonempty : finalValues [.push 1, .collect [-5], .reset, .copies 2147483647 4294967296] ≠
      [] := by
    rw [held]
    exact List.ne_nil_of_length_eq_add_one List.length_replicate
  have few : (finalValues [.push 1, .collect [-5], .reset, .copies 2147483647 4294967296]).length ≤
      2 ^ 32 := by
    rw [held, List.length_replicate]
    decide
  have reached : (finalState [.push 1, .collect [-5], .reset,
      .copies 2147483647 4294967296]).average? = .ok ⟨0x4f000000⟩ := rfl
  obtain ⟨_, average, computed, _, _, _, normal, _, _, _, size⟩ :=
    average?_finalState_normal nonempty few
  obtain rfl : ⟨0x4f000000⟩ = average := Except.ok.inj (reached.symm.trans computed)
  exact ⟨nonempty, few, reached, normal, size⟩

end AverageStep
end ScoreSheet
