import Mathlib.Data.List.Forall2
import ScoreSheet.Proofs.Average.Range
import ScoreSheet.Proofs.Average.Size

/-!
Averages of two lists.  Of as many values those with the larger sum have no smaller average,
since each of the three roundings keeps the order.  Values with their signs changed have the
opposite average, since each rounding treats both signs alike; only a sum of zero has no
opposite.  The least value has no opposite either, and is left out.
-/

namespace ScoreSheet

theorem exactSum_le_of_forall₂ {values others : List Int32}
    (ordered : List.Forall₂ (· ≤ ·) values others) : exactSum values ≤ exactSum others := by
  induction ordered with
  | nil => exact Int.le_refl _
  | cons first _ ih =>
      have heads := Int32.le_iff_toInt_le.mp first
      rw [exactSum, exactSum]
      omega

theorem toInt_neg_of_ne_minValue {value : Int32} (notLeast : value ≠ Int32.minValue) :
    (-value).toInt = -value.toInt := by
  have lower := value.le_toInt
  have upper := value.toInt_lt
  have above : value.toInt ≠ -2 ^ 31 := by
    intro least
    exact notLeast (Int32.toInt_inj.mp least)
  rw [Int32.toInt_neg]
  exact Int.bmod_eq_of_le (by omega) (by omega)

theorem exactSum_map_neg {values : List Int32} (noLeast : Int32.minValue ∉ values) :
    exactSum (values.map (- ·)) = -exactSum values := by
  induction values with
  | nil => rfl
  | cons value rest ih =>
      rw [List.mem_cons, not_or] at noLeast
      rw [List.map_cons, exactSum, exactSum, ih noLeast.2,
        toInt_neg_of_ne_minValue (Ne.symm noLeast.1)]
      omega

namespace Average

open Binary32 (RoundsTo)

/-- The average is monotone in the sum: of as many values, in particular if each is at most
the one in its place, those with the smaller sum have no larger average. -/
theorem averageOf_mono {values others : List Int32} (nonempty : values ≠ [])
    (few : values.length ≤ 2 ^ 32) (lengths : values.length = others.length) :
    ∃ average otherAverage, (Report.averageOf values).2 = .ok average ∧
      (Report.averageOf others).2 = .ok otherAverage ∧
      average.isFinite = true ∧ otherAverage.isFinite = true ∧
      (exactSum values ≤ exactSum others ∨ List.Forall₂ (· ≤ ·) values others →
        average.toRat ≤ otherAverage.toRat ∧ otherAverage.lt average = false) := by
  have othersNonempty : others ≠ [] := by
    rintro rfl
    exact nonempty (List.eq_nil_of_length_eq_zero lengths)
  have othersFew : others.length ≤ 2 ^ 32 := by rwa [← lengths]
  have rounded := rounded_div nonempty few
  have othersRounded := rounded_div othersNonempty othersFew
  refine ⟨_, _, averageOf_eq_div nonempty few, averageOf_eq_div othersNonempty othersFew,
    rounded.rounds.finite, othersRounded.rounds.finite, ?_⟩
  intro ordered
  have sums : exactSum values ≤ exactSum others := ordered.elim id exactSum_le_of_forall₂
  have averages := rounded.mono othersRounded lengths sums
  refine ⟨averages, ?_⟩
  rw [← Bool.not_eq_true,
    Binary32.lt_iff_of_finite othersRounded.rounds.finite rounded.rounds.finite, not_lt]
  exact averages

/-- Of these two lists one holds the larger values and has the smaller sum, `-1` against zero. -/
theorem averageOf_mono_of_cancelling :
    [2147483647, (-2147483648 : Int32)] ≠ [] ∧
      [2147483647, (-2147483648 : Int32)].length ≤ 2 ^ 32 ∧
      [2147483647, (-2147483648 : Int32)].length = [1, (-1 : Int32)].length ∧
      ∃ average otherAverage, (Report.averageOf [2147483647, -2147483648]).2 = .ok average ∧
        (Report.averageOf [1, -1]).2 = .ok otherAverage ∧
        average.toRat ≤ otherAverage.toRat := by
  have nonempty : [2147483647, (-2147483648 : Int32)] ≠ [] := by decide
  have few : [2147483647, (-2147483648 : Int32)].length ≤ 2 ^ 32 := by decide
  have lengths : [2147483647, (-2147483648 : Int32)].length = [1, (-1 : Int32)].length := rfl
  obtain ⟨average, otherAverage, computed, otherComputed, _, _, ordered⟩ :=
    averageOf_mono nonempty few lengths
  have averages := ordered (Or.inl (by decide))
  exact ⟨nonempty, few, lengths, average, otherAverage, computed, otherComputed, averages.1⟩

namespace Rounded

variable {values others : List Int32} {sum count average : Binary32}
  {otherSum otherCount otherAverage : Binary32}

theorem quotient_ne_zero (rounded : Rounded values sum count average)
    (nonzero : exactSum values ≠ 0) : sum.toRat / count.toRat ≠ 0 := by
  intro zero
  have least := rounded.le_abs_average nonzero
  have most := (rounded.quotient_within nonzero).left_le
  rw [zero, abs_zero, mul_zero] at most
  linarith

theorem eq_flipSign (rounded : Rounded values sum count average)
    (otherRounded : Rounded others otherSum otherCount otherAverage)
    (lengths : values.length = others.length) (sums : exactSum others = -exactSum values)
    (nonzero : exactSum values ≠ 0) : otherAverage = average.flipSign := by
  have otherSumRounds := otherRounded.sum_rounds
  rw [sums, Int.cast_neg] at otherSumRounds
  obtain rfl := otherSumRounds.unique (rounded.sum_rounds.neg (Int.cast_ne_zero.mpr nonzero))
  have countRounds := rounded.count_rounds
  rw [lengths] at countRounds
  obtain rfl := countRounds.unique otherRounded.count_rounds
  have rounds := otherRounded.rounds
  rw [Binary32.toRat_flipSign, neg_div] at rounds
  exact rounds.unique (rounded.rounds.neg (rounded.quotient_ne_zero nonzero))

end Rounded

/-- The average is odd: changing the sign of every value changes the sign bit of the average
and no other, unless the sum is zero and both averages are zero without a sign. -/
theorem averageOf_map_neg {values : List Int32} (nonempty : values ≠ [])
    (few : values.length ≤ 2 ^ 32) (noLeast : Int32.minValue ∉ values) :
    ∃ average opposite, (Report.averageOf values).2 = .ok average ∧
      (Report.averageOf (values.map (- ·))).2 = .ok opposite ∧
      (exactSum values ≠ 0 → opposite.bits = average.bits ^^^ 0x80000000) ∧
      (exactSum values = 0 → average.bits = 0 ∧ opposite.bits = 0) := by
  have oppositeNonempty : values.map (- ·) ≠ [] := by rwa [ne_eq, List.map_eq_nil_iff]
  have lengths : values.length = (values.map (- ·)).length := (List.length_map _).symm
  have oppositeFew : (values.map (- ·)).length ≤ 2 ^ 32 := by rwa [← lengths]
  have rounded := rounded_div nonempty few
  have oppositeRounded := rounded_div oppositeNonempty oppositeFew
  have sums := exactSum_map_neg noLeast
  refine ⟨_, _, averageOf_eq_div nonempty few, averageOf_eq_div oppositeNonempty oppositeFew,
    ?_, ?_⟩
  · intro nonzero
    exact congrArg Binary32.bits (rounded.eq_flipSign oppositeRounded lengths sums nonzero)
  · intro zero
    have oppositeZero : exactSum (values.map (- ·)) = 0 := by omega
    exact ⟨congrArg Binary32.bits (rounded.eq_zero_iff.mpr zero),
      congrArg Binary32.bits (oppositeRounded.eq_zero_iff.mpr oppositeZero)⟩

theorem averageOf_map_neg_above_significand :
    [2147483647, 2147483647, (1 : Int32)] ≠ [] ∧
      [2147483647, 2147483647, (1 : Int32)].length ≤ 2 ^ 32 ∧
      Int32.minValue ∉ [2147483647, 2147483647, (1 : Int32)] ∧
      exactSum [2147483647, 2147483647, 1] ≠ 0 ∧
      (Report.averageOf [2147483647, 2147483647, 1]).2 = .ok ⟨0x4eaaaaab⟩ ∧
      (Report.averageOf [-2147483647, -2147483647, -1]).2 = .ok ⟨0xceaaaaab⟩ := by
  have nonempty : [2147483647, 2147483647, (1 : Int32)] ≠ [] := by decide
  have few : [2147483647, 2147483647, (1 : Int32)].length ≤ 2 ^ 32 := by decide
  have noLeast : Int32.minValue ∉ [2147483647, 2147483647, (1 : Int32)] := by decide
  have nonzero : exactSum [2147483647, 2147483647, 1] ≠ 0 := by decide
  have computed : (Report.averageOf [2147483647, 2147483647, 1]).2 = .ok ⟨0x4eaaaaab⟩ := rfl
  obtain ⟨average, ⟨bits⟩, same, opposite, flipped, _⟩ := averageOf_map_neg nonempty few noLeast
  rw [computed, Except.ok.injEq] at same
  have pattern : bits = average.bits ^^^ 0x80000000 := flipped nonzero
  rw [← same] at pattern
  rw [pattern] at opposite
  exact ⟨nonempty, few, noLeast, nonzero, computed, opposite⟩

end Average
end ScoreSheet
