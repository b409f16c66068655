import ScoreSheet.Proofs.Average.Rounding
import ScoreSheet.Proofs.Binary.Exact

/-!
How close an average is to the mean of its values.  The sum is exact before it is rounded,
whatever cancels in it, and each of the three roundings changes a number by one part in
`2 ^ 24` at most, so that all of them together keep the average within one part in `2 ^ 22`
of the mean.  Where the sum and the count are binary numbers already, only the division
rounds, and the average is the mean rounded once.
-/

namespace ScoreSheet
namespace Average

open Binary32 (RoundsTo Representable)

/-- The numbers that an average of values goes through. -/
structure Rounded (values : List Int32) (sum count average : Binary32) : Prop where
  nonempty : values ≠ []
  few : values.length ≤ 2 ^ 32
  sum_rounds : RoundsTo (exactSum values) sum
  count_rounds : RoundsTo values.length count
  rounds : RoundsTo (sum.toRat / count.toRat) average

def exactMean (values : List Int32) : ℚ :=
  exactSum values / values.length

theorem one_le_abs_exactSum {values : List Int32} (nonzero : exactSum values ≠ 0) :
    1 ≤ |(exactSum values : ℚ)| := by
  exact_mod_cast Int.one_le_abs nonzero

theorem rounded_div {values : List Int32} (nonempty : values ≠ [])
    (few : values.length ≤ 2 ^ 32) :
    Rounded values (Binary32.ofInt (exactSum values)) (Binary32.ofInt values.length)
      (Binary32.ofInt (exactSum values) / Binary32.ofInt values.length) where
  nonempty := nonempty
  few := few
  sum_rounds := roundsTo_exactSum few
  count_rounds := roundsTo_length few
  rounds := roundsTo_quotient nonempty few (roundsTo_exactSum few) (roundsTo_length few)

namespace Rounded

variable {values : List Int32} {sum count average : Binary32}

theorem length_pos (rounded : Rounded values sum count average) : (0 : ℚ) < values.length :=
  zero_lt_one.trans_le (one_le_length rounded.nonempty)

theorem length_le (rounded : Rounded values sum count average) :
    (values.length : ℚ) ≤ 2 ^ 32 := by
  exact_mod_cast rounded.few

theorem count_pos (rounded : Rounded values sum count average) : 0 < count.toRat := by
  have atLeast := one_le_count rounded.nonempty rounded.count_rounds
  linarith

theorem abs_exactMean_lt (rounded : Rounded values sum count average) :
    |exactMean values| < 2 ^ 127 := by
  have quotient := div_le_self (abs_nonneg (exactSum values : ℚ)) (one_le_length rounded.nonempty)
  have size := abs_exactSum_le rounded.few
  rw [exactMean, abs_div, Nat.abs_cast]
  linarith

theorem le_abs_exactMean (rounded : Rounded values sum count average)
    (nonzero : exactSum values ≠ 0) : 1 / 2 ^ 32 ≤ |exactMean values| := by
  have atLeast := one_le_abs_exactSum nonzero
  have atMost := rounded.length_le
  rw [exactMean, abs_div, Nat.abs_cast, le_div_iff₀ rounded.length_pos]
  linarith

theorem sum_neg_iff (rounded : Rounded values sum count average) :
    sum.toRat < 0 ↔ exactSum values < 0 := by
  have sign : sum.isNegative = true ↔ exactSum values < 0 :=
    rounded.sum_rounds.sign.trans Int.cast_lt_zero
  constructor
  · intro below
    apply sign.mp
    rw [← Bool.not_eq_false]
    exact fun unsigned => absurd (Binary32.toRat_nonneg unsigned) (not_le.mpr below)
  · intro below
    have signed := sign.mpr below
    exact lt_of_le_of_ne (Binary32.toRat_nonpos signed) (sum_ne_zero rounded.sum_rounds signed)

theorem exactMean_neg_iff (rounded : Rounded values sum count average) :
    exactMean values < 0 ↔ exactSum values < 0 := by
  rw [exactMean, div_lt_iff₀ rounded.length_pos, zero_mul, Int.cast_lt_zero]

theorem quotient_neg_iff (rounded : Rounded values sum count average) :
    sum.toRat / count.toRat < 0 ↔ exactMean values < 0 := by
  rw [rounded.exactMean_neg_iff, div_lt_iff₀ rounded.count_pos, zero_mul, rounded.sum_neg_iff]

theorem sign (rounded : Rounded values sum count average) :
    average.isNegative = true ↔ exactMean values < 0 :=
  rounded.rounds.sign.trans rounded.quotient_neg_iff

theorem sum_within (rounded : Rounded values sum count average) (nonzero : exactSum values ≠ 0) :
    Within Format.binary32.roundingFactor |sum.toRat| |(exactSum values : ℚ)| := by
  have atLeast := one_le_abs_exactSum nonzero
  have atMost := abs_exactSum_le rounded.few
  apply rounded.sum_rounds.within <;> linarith

theorem count_within (rounded : Rounded values sum count average) :
    Within Format.binary32.roundingFactor |count.toRat| |(values.length : ℚ)| := by
  have atLeast := one_le_length rounded.nonempty
  have atMost := rounded.length_le
  apply rounded.count_rounds.within <;> rw [Nat.abs_cast] <;> linarith

theorem abs_quotient_lt (rounded : Rounded values sum count average) :
    |sum.toRat / count.toRat| < 2 ^ 127 := by
  have atLeast := one_le_count rounded.nonempty rounded.count_rounds
  have quotient := div_le_self (abs_nonneg sum.toRat) atLeast
  have size := abs_sum_le rounded.few rounded.sum_rounds
  rw [abs_div, abs_of_pos rounded.count_pos]
  linarith

theorem quotient_within (rounded : Rounded values sum count average)
    (nonzero : exactSum values ≠ 0) :
    Within Format.binary32.roundingFactor |average.toRat| |sum.toRat / count.toRat| := by
  apply rounded.rounds.within _ rounded.abs_quotient_lt
  have sumLarge := (rounded.sum_within nonzero).right_le
  have countSmall := rounded.count_within.left_le
  have sumAtLeast := one_le_abs_exactSum nonzero
  have length := rounded.length_le
  rw [Binary32.roundingFactor_eq] at sumLarge countSmall
  rw [abs_of_pos rounded.count_pos, Nat.abs_cast] at countSmall
  rw [abs_div, abs_of_pos rounded.count_pos, le_div_iff₀ rounded.count_pos]
  linarith

theorem within (rounded : Rounded values sum count average) (nonzero : exactSum values ≠ 0) :
    Within (Format.binary32.roundingFactor *
        (Format.binary32.roundingFactor * Format.binary32.roundingFactor))
      |average.toRat| |exactMean values| := by
  have factor : 0 ≤ Format.binary32.roundingFactor :=
    zero_le_one.trans Format.binary32.one_le_roundingFactor
  have quotients := (rounded.sum_within nonzero).div rounded.count_within factor
    (abs_nonneg _) (abs_nonneg _) (abs_pos.mpr rounded.count_pos.ne')
    (abs_pos.mpr rounded.length_pos.ne')
  rw [← abs_div, ← abs_div] at quotients
  exact (rounded.quotient_within nonzero).trans factor (mul_nonneg factor factor) quotients

theorem eq_zero (rounded : Rounded values sum count average) (zero : exactSum values = 0) :
    average.toRat = 0 := by
  have sum_rounds := rounded.sum_rounds
  have rounds := rounded.rounds
  rw [zero, Int.cast_zero] at sum_rounds
  rw [sum_rounds.toRat_eq Binary32.representable_zero, zero_div] at rounds
  exact rounds.toRat_eq Binary32.representable_zero

theorem error_le (rounded : Rounded values sum count average) :
    |average.toRat - exactMean values| ≤ 1 / 2 ^ 22 * |exactMean values| := by
  by_cases zero : exactSum values = 0
  · rw [rounded.eq_zero zero, exactMean, zero, Int.cast_zero, zero_div, sub_zero, abs_zero,
      mul_zero]
  · rw [abs_sub_comm, Binary32.distance_eq rounded.sign, abs_sub_comm]
    calc
      |(|average.toRat| - |exactMean values|)| ≤ _ := by
        apply (rounded.within zero).abs_sub_le
        rw [Binary32.roundingFactor_eq]
        norm_num
      _ ≤ 1 / 2 ^ 22 * |exactMean values| := by
        apply mul_le_mul_of_nonneg_right _ (abs_nonneg _)
        rw [Binary32.roundingFactor_eq]
        norm_num

theorem count_eq (rounded : Rounded values sum count average) (few : values.length ≤ 2 ^ 24) :
    count.toRat = values.length := by
  apply rounded.count_rounds.toRat_eq
  have exact : Representable ((values.length : Int) : ℚ) :=
    Binary32.representable_intCast (by rwa [Int.natAbs_natCast])
  rwa [Int.cast_natCast] at exact

/-- If neither the sum nor the count needs rounding, the average is the mean rounded once. -/
theorem rounds_mean (rounded : Rounded values sum count average) (few : values.length ≤ 2 ^ 24)
    (exact : Representable (exactSum values)) : RoundsTo (exactMean values) average := by
  have rounds := rounded.rounds
  rwa [rounded.count_eq few, rounded.sum_rounds.toRat_eq exact] at rounds

end Rounded

/-- The average of values, in any order, is a finite number and off from their exact mean by
one part in `2 ^ 22` of that mean at most, however much cancels in their sum. -/
theorem averageOf_close_to_mean {values : List Int32} (nonempty : values ≠ [])
    (few : values.length ≤ 2 ^ 32) :
    ∃ average, (Report.averageOf values).2 = .ok average ∧ average.isFinite = true ∧
      |average.toRat - exactSum values / values.length| ≤
        1 / 2 ^ 22 * |(exactSum values : ℚ) / values.length| ∧
      ∀ others, values.Perm others → (Report.averageOf others).2 = .ok average := by
  have rounded := rounded_div nonempty few
  refine ⟨_, averageOf_eq_div nonempty few, rounded.rounds.finite, rounded.error_le, ?_⟩
  intro others same
  have othersNonempty : others ≠ [] := by
    rintro rfl
    exact nonempty same.eq_nil
  rw [averageOf_eq_div othersNonempty (same.length_eq ▸ few), exactSum_perm same,
    same.length_eq]

/-- Nearly all of the two large values cancels, and of the sum that is left nothing is lost. -/
theorem averageOf_close_to_mean_of_cancelling :
    [2147483647, -2147483648, 16777217, (1 : Int32)] ≠ [] ∧
      [2147483647, -2147483648, 16777217, (1 : Int32)].length ≤ 2 ^ 32 ∧
      ∃ average, (Report.averageOf [2147483647, -2147483648, 16777217, 1]).2 = .ok average ∧
        |average.toRat - 16777217 / 4| ≤ 1 / 2 ^ 22 * |(16777217 : ℚ) / 4| := by
  have nonempty : [2147483647, -2147483648, 16777217, (1 : Int32)] ≠ [] := by decide
  have few : [2147483647, -2147483648, 16777217, (1 : Int32)].length ≤ 2 ^ 32 := by decide
  obtain ⟨average, computed, _, close, _⟩ := averageOf_close_to_mean nonempty few
  exact ⟨nonempty, few, average, computed, close⟩

/-- The average of at most `2 ^ 24` values with a sum of at most `2 ^ 24` in size is their exact
mean, rounded to nearest once. -/
theorem averageOf_rounds_mean {values : List Int32} (nonempty : values ≠ [])
    (few : values.length ≤ 2 ^ 24) (small : |exactSum values| ≤ 2 ^ 24) :
    (∃ average, (Report.averageOf values).2 = .ok average) ∧
      ∀ average, (Report.averageOf values).2 = .ok average ↔
        RoundsTo (exactSum values / values.length) average := by
  have within : values.length ≤ 2 ^ 32 := few.trans (by decide)
  have computed := averageOf_eq_div nonempty within
  have exact : Representable (exactSum values) := by
    apply Binary32.representable_intCast
    rw [Int.abs_eq_natAbs] at small
    exact_mod_cast small
  have rounds := (rounded_div nonempty within).rounds_mean few exact
  refine ⟨⟨_, computed⟩, ?_⟩
  intro average
  rw [computed, Except.ok.injEq]
  constructor
  · rintro rfl
    exact rounds
  · exact rounds.unique

theorem averageOf_rounds_mean_of_cancelling :
    [2147483647, -2147483647, (16777216 : Int32)] ≠ [] ∧
      [2147483647, -2147483647, (16777216 : Int32)].length ≤ 2 ^ 24 ∧
      |exactSum [2147483647, -2147483647, 16777216]| ≤ 2 ^ 24 ∧
      (Report.averageOf [2147483647, -2147483647, 16777216]).2 = .ok ⟨0x4aaaaaab⟩ ∧
      RoundsTo (exactSum [2147483647, -2147483647, 16777216] /
        ([2147483647, -2147483647, (16777216 : Int32)].length : Nat)) ⟨0x4aaaaaab⟩ := by
  have nonempty : [2147483647, -2147483647, (16777216 : Int32)] ≠ [] := by decide
  have few : [2147483647, -2147483647, (16777216 : Int32)].length ≤ 2 ^ 24 := by decide
  have small : |exactSum [2147483647, -2147483647, 16777216]| ≤ 2 ^ 24 := by decide
  have average : (Report.averageOf [2147483647, -2147483647, 16777216]).2 =
      .ok ⟨0x4aaaaaab⟩ := rfl
  exact ⟨nonempty, few, small, average, ((averageOf_rounds_mean nonempty few small).2 _).mp average⟩

end Average
end ScoreSheet
