import ScoreSheet.Proofs.Average.Exact
import ScoreSheet.Proofs.Binary.Exact
import ScoreSheet.Report

/-!
An average is rounded three times and no more: the exact sum, the count, and the quotient
of these two.  Rounding does not pass `-1`, `1` and the two ends of a 64-bit word, so that
the divisor is at least one, a sum below zero stays below it, and no step is infinite.
-/

namespace ScoreSheet
namespace Average

open Binary32 (RoundsTo)

section

variable {values : List Int32} {sum count : Binary32}

theorem abs_exactSum_le (few : values.length ≤ 2 ^ 32) :
    |(exactSum values : ℚ)| ≤ 2 ^ 63 := by
  obtain ⟨lower, upper⟩ := exactSum_bounds values
  have size : |exactSum values| ≤ 2 ^ 63 := by
    rw [abs_le]
    constructor <;> omega
  exact_mod_cast size

theorem roundsTo_exactSum (few : values.length ≤ 2 ^ 32) :
    RoundsTo (exactSum values) (Binary32.ofInt (exactSum values)) := by
  apply Binary32.roundsTo_ofInt
  have size := abs_exactSum_le few
  linarith

theorem roundsTo_length (few : values.length ≤ 2 ^ 32) :
    RoundsTo values.length (Binary32.ofInt values.length) := by
  have size : (values.length : ℚ) ≤ 2 ^ 32 := by exact_mod_cast few
  have small : |(((values.length : Int)) : ℚ)| < 2 ^ 127 := by
    rw [Int.cast_natCast, abs_of_nonneg (Nat.cast_nonneg _)]
    linarith
  have rounds := Binary32.roundsTo_ofInt small
  rwa [Int.cast_natCast] at rounds

theorem one_le_length (nonempty : values ≠ []) : (1 : ℚ) ≤ values.length := by
  exact_mod_cast List.length_pos_iff.mpr nonempty

theorem one_le_count (nonempty : values ≠ []) (rounds : RoundsTo values.length count) :
    1 ≤ count.toRat :=
  rounds.bound_le_toRat Binary32.representable_one (one_le_length nonempty)

theorem sum_ne_zero (rounds : RoundsTo (exactSum values) sum)
    (signed : sum.isNegative = true) : sum.toRat ≠ 0 := by
  have below : exactSum values < 0 := by exact_mod_cast rounds.sign.mp signed
  have atMost : (exactSum values : ℚ) ≤ -1 := by exact_mod_cast Int.le_sub_one_of_lt below
  have rounded := rounds.toRat_le_bound Binary32.representable_one.neg atMost
  linarith

theorem abs_sum_le (few : values.length ≤ 2 ^ 32) (rounds : RoundsTo (exactSum values) sum) :
    |sum.toRat| ≤ 2 ^ 63 :=
  rounds.abs_toRat_le (Binary32.representable_two_pow (by decide)) (abs_exactSum_le few)

theorem roundsTo_quotient (nonempty : values ≠ []) (few : values.length ≤ 2 ^ 32)
    (sumRounds : RoundsTo (exactSum values) sum) (countRounds : RoundsTo values.length count) :
    RoundsTo (sum.toRat / count.toRat) (sum / count) := by
  have atLeast := one_le_count nonempty countRounds
  have positive : 0 < count.toRat := by linarith
  apply Binary32.roundsTo_div sumRounds.finite countRounds.finite positive
    (sum_ne_zero sumRounds)
  have size := abs_sum_le few sumRounds
  rw [abs_div, abs_of_pos positive]
  have quotient := div_le_self (abs_nonneg sum.toRat) atLeast
  linarith

theorem averageOf_eq_div (nonempty : values ≠ []) (few : values.length ≤ 2 ^ 32) :
    (Report.averageOf values).2 =
      .ok (Binary32.ofInt (exactSum values) / Binary32.ofInt values.length) := by
  have average := (holds_ofList values few).average?_eq
  rwa [if_neg nonempty] at average

end

/-- The average of values is the one number that comes of rounding three times: their exact
sum, their number, and the quotient of the two rounded numbers. -/
theorem averageOf_rounds_three_times {values : List Int32} (nonempty : values ≠ [])
    (few : values.length ≤ 2 ^ 32) :
    (∃ average, (Report.averageOf values).2 = .ok average) ∧
      ∀ average, (Report.averageOf values).2 = .ok average ↔
        ∃ sum count : Binary32, RoundsTo (exactSum values) sum ∧
          RoundsTo values.length count ∧ count.toRat ≠ 0 ∧
            RoundsTo (sum.toRat / count.toRat) average := by
  have computed := averageOf_eq_div nonempty few
  have sumRounds := roundsTo_exactSum few
  have countRounds := roundsTo_length few
  refine ⟨⟨_, computed⟩, ?_⟩
  intro average
  rw [computed, Except.ok.injEq]
  constructor
  · intro same
    have atLeast := one_le_count nonempty countRounds
    refine ⟨_, _, sumRounds, countRounds, by linarith, ?_⟩
    rw [← same]
    exact roundsTo_quotient nonempty few sumRounds countRounds
  · rintro ⟨sum, count, otherSum, otherCount, _, rounds⟩
    rw [sumRounds.unique otherSum, countRounds.unique otherCount]
    exact (roundsTo_quotient nonempty few otherSum otherCount).unique rounds

theorem averageOf_rounds_three_times_above_significand :
    [2147483647, 2147483647, (1 : Int32)] ≠ [] ∧
      [2147483647, 2147483647, (1 : Int32)].length ≤ 2 ^ 32 ∧
      (Report.averageOf [2147483647, 2147483647, 1]).2 = .ok ⟨0x4eaaaaab⟩ ∧
      ∃ sum count : Binary32, RoundsTo (exactSum [2147483647, 2147483647, 1]) sum ∧
        RoundsTo ([2147483647, 2147483647, (1 : Int32)].length) count ∧ count.toRat ≠ 0 ∧
          RoundsTo (sum.toRat / count.toRat) ⟨0x4eaaaaab⟩ := by
  have nonempty : [2147483647, 2147483647, (1 : Int32)] ≠ [] := by decide
  have few : [2147483647, 2147483647, (1 : Int32)].length ≤ 2 ^ 32 := by decide
  have average : (Report.averageOf [2147483647, 2147483647, 1]).2 = .ok ⟨0x4eaaaaab⟩ := rfl
  exact ⟨nonempty, few, average, ((averageOf_rounds_three_times nonempty few).2 _).mp average⟩

end Average
end ScoreSheet
