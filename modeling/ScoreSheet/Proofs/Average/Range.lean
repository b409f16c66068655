import Mathlib.Data.List.MinMax
import ScoreSheet.Proofs.Average.Accuracy
import ScoreSheet.Proofs.Binary.Order

/-!
The average and the range of its values.  A larger sum of as many values has no smaller
average, so an average lies between those of as many copies of the least value and of the
greatest.  The average of copies of one value need not be that value: their sum is rounded
before it is divided, and may be off by enough to reach the number next to it, though never
the one after that.  It is the value itself where the sum needs no rounding, and where the
count is a power of two, since then dividing only moves the exponent.
-/

namespace ScoreSheet
namespace Average

open Binary32 (RoundsTo Representable)

def NoneBetween (low high : Binary32) : Prop :=
  ∀ other : Binary32, other.isFinite = true → low.toRat < other.toRat → high.toRat ≤ other.toRat

theorem noneBetween_of_rank_le {low high : Binary32} (step : high.rank ≤ low.rank + 1) :
    NoneBetween low high := by
  intro other _ above
  rw [Binary32.toRat_lt_iff] at above
  rw [Binary32.toRat_le_iff]
  omega

theorem abs_value_lt (value : Int32) : |(value.toInt : ℚ)| < 2 ^ 127 := by
  have lower : ((-2 ^ 31 : Int) : ℚ) ≤ value.toInt := by exact_mod_cast value.le_toInt
  have upper : (value.toInt : ℚ) < ((2 ^ 31 : Int) : ℚ) := by exact_mod_cast value.toInt_lt
  push_cast at lower upper
  rw [abs_lt]
  constructor <;> linarith

theorem roundsTo_value (value : Int32) : RoundsTo value.toInt (Binary32.ofInt value.toInt) :=
  Binary32.roundsTo_ofInt (abs_value_lt value)

namespace Rounded

section

variable {values others : List Int32} {sum count average : Binary32}
  {otherSum otherCount otherAverage : Binary32}

theorem mono (rounded : Rounded values sum count average)
    (otherRounded : Rounded others otherSum otherCount otherAverage)
    (lengths : values.length = others.length) (ordered : exactSum values ≤ exactSum others) :
    average.toRat ≤ otherAverage.toRat := by
  have sums : sum.toRat ≤ otherSum.toRat :=
    rounded.sum_rounds.mono otherRounded.sum_rounds (by exact_mod_cast ordered)
  have countRounds := rounded.count_rounds
  rw [lengths] at countRounds
  obtain rfl := countRounds.unique otherRounded.count_rounds
  exact rounded.rounds.mono otherRounded.rounds
    (div_le_div_of_nonneg_right sums rounded.count_pos.le)

theorem exactMean_replicate {copies : Nat} (some : copies ≠ 0) (value : Int32) :
    exactMean (List.replicate copies value) = value.toInt := by
  have nonzero : (copies : ℚ) ≠ 0 := by exact_mod_cast some
  rw [exactMean, exactSum_replicate, List.length_replicate, Int.cast_mul, Int.cast_natCast,
    mul_div_cancel_left₀ _ nonzero]

/-- The average of copies of a value is that value or a number next to it. -/
theorem rank_of_replicate {copies : Nat} {value : Int32} (few : copies ≤ 2 ^ 24)
    (rounded : Rounded (List.replicate copies value) sum count average) :
    average.rank ≤ (Binary32.ofInt value.toInt).rank + 1 ∧
      (Binary32.ofInt value.toInt).rank ≤ average.rank + 1 := by
  have some : copies ≠ 0 := by
    rintro rfl
    exact rounded.nonempty rfl
  have mean := exactMean_replicate some value
  by_cases zero : exactSum (List.replicate copies value) = 0
  · have none : value.toInt = 0 := by
      rw [exactSum_replicate] at zero
      exact (Int.mul_eq_zero.mp zero).resolve_left (by exact_mod_cast some)
    have value_zero : (Binary32.ofInt 0).toRat = 0 := by
      have rounds := roundsTo_value 0
      rw [Int32.toInt_zero, Int.cast_zero] at rounds
      exact rounds.toRat_eq Binary32.representable_zero
    have average_zero := rounded.eq_zero zero
    have up := Binary32.toRat_le_iff.mp (average_zero.trans value_zero.symm).le
    have down := Binary32.toRat_le_iff.mp (value_zero.trans average_zero.symm).le
    rw [none]
    omega
  · apply rounded.rounds.rank_le_add_one (roundsTo_value value) rounded.abs_quotient_lt
      (abs_value_lt value)
    · rw [rounded.quotient_neg_iff, mean]
    · -- The sum is off by one rounding, and so is its exact quotient.
      have quotients := (rounded.sum_within zero).div_right rounded.length_pos
      rw [← Nat.abs_cast, ← abs_div, ← abs_div] at quotients
      rw [rounded.count_eq (by rwa [List.length_replicate]), ← mean]
      exact quotients

/-- Dividing by a power of two moves only the exponent of what the sum is rounded to, so that
the average is the mean rounded once. -/
theorem exists_rounds_mean {exponent : Nat} (rounded : Rounded values sum count average)
    (few : values.length ≤ 2 ^ 24) (power : values.length = 2 ^ exponent) :
    ∃ single, RoundsTo (exactMean values) single ∧ average.toRat = single.toRat := by
  by_cases zero : exactSum values = 0
  · have exact : Representable (exactSum values) := Binary32.representable_intCast (by omega)
    exact ⟨average, rounded.rounds_mean few exact, rfl⟩
  · have powerCast : (values.length : ℚ) = 2 ^ exponent := by exact_mod_cast power
    have whole : 2 ^ exponent * exactMean values = exactSum values := by
      rw [← powerCast, exactMean, mul_div_cancel₀ _ rounded.length_pos.ne']
    obtain ⟨single, rounds⟩ := Binary32.exists_roundsTo rounded.abs_exactMean_lt
    have large : 1 / 2 ^ 126 ≤ |exactMean values| := by
      have least := rounded.le_abs_exactMean zero
      linarith
    have scaled : sum.toRat = 2 ^ exponent * single.toRat := by
      apply rounds.toRat_scale _ large <;> rw [whole]
      · have size := abs_exactSum_le rounded.few
        linarith
      · exact rounded.sum_rounds
    have quotient := rounded.rounds
    rw [rounded.count_eq few, powerCast, scaled, mul_div_cancel_left₀ _ (by positivity)]
      at quotient
    exact ⟨single, rounds, quotient.toRat_eq ⟨single, rounds.finite, rfl⟩⟩

variable {bound : Int32}

theorem le_average (rounded : Rounded values sum count average) (few : values.length ≤ 2 ^ 24)
    (below : (bound.toInt : ℚ) ≤ exactMean values)
    (kept : values.length * bound.toInt ≤ sum.toRat ∨ ∃ exponent, values.length = 2 ^ exponent) :
    (Binary32.ofInt bound.toInt).toRat ≤ average.toRat := by
  rcases kept with kept | ⟨exponent, power⟩
  · apply (roundsTo_value bound).mono rounded.rounds
    rwa [rounded.count_eq few, le_div_iff₀ rounded.length_pos, mul_comm]
  · obtain ⟨single, rounds, same⟩ := rounded.exists_rounds_mean few power
    rw [same]
    exact (roundsTo_value bound).mono rounds below

theorem average_le (rounded : Rounded values sum count average) (few : values.length ≤ 2 ^ 24)
    (above : exactMean values ≤ bound.toInt)
    (kept : sum.toRat ≤ values.length * bound.toInt ∨ ∃ exponent, values.length = 2 ^ exponent) :
    average.toRat ≤ (Binary32.ofInt bound.toInt).toRat := by
  rcases kept with kept | ⟨exponent, power⟩
  · apply rounded.rounds.mono (roundsTo_value bound)
    rwa [rounded.count_eq few, div_le_iff₀ rounded.length_pos, mul_comm]
  · obtain ⟨single, rounds, same⟩ := rounded.exists_rounds_mean few power
    rw [same]
    exact rounds.mono (roundsTo_value bound) above

end

end Rounded

section

variable {values : List Int32} {least greatest : Int32}

theorem exists_argmin_argmax (nonempty : values ≠ []) :
    ∃ least greatest, values.argmin Int32.toInt = some least ∧
      values.argmax Int32.toInt = some greatest := by
  cases isLeast : values.argmin Int32.toInt with
  | none => exact absurd (List.argmin_eq_none.mp isLeast) nonempty
  | some least =>
      cases isGreatest : values.argmax Int32.toInt with
      | none => exact absurd (List.argmax_eq_none.mp isGreatest) nonempty
      | some greatest => exact ⟨least, greatest, rfl, rfl⟩

theorem exactSum_between_copies (isLeast : values.argmin Int32.toInt = some least)
    (isGreatest : values.argmax Int32.toInt = some greatest) :
    exactSum (List.replicate values.length least) ≤ exactSum values ∧
      exactSum values ≤ exactSum (List.replicate values.length greatest) := by
  rw [exactSum_replicate, exactSum_replicate]
  exact exactSum_between fun value member =>
    ⟨List.le_of_mem_argmin member isLeast, List.le_of_mem_argmax member isGreatest⟩

theorem exactMean_between (nonempty : values ≠ [])
    (isLeast : values.argmin Int32.toInt = some least)
    (isGreatest : values.argmax Int32.toInt = some greatest) :
    (least.toInt : ℚ) ≤ exactMean values ∧ exactMean values ≤ greatest.toInt := by
  have length := zero_lt_one.trans_le (one_le_length nonempty)
  obtain ⟨lower, upper⟩ := exactSum_between_copies isLeast isGreatest
  rw [exactSum_replicate] at lower upper
  rw [exactMean, le_div_iff₀ length, div_le_iff₀ length, mul_comm, mul_comm (greatest.toInt : ℚ)]
  exact ⟨by exact_mod_cast lower, by exact_mod_cast upper⟩

theorem rounded_replicate (nonempty : values ≠ []) (few : values.length ≤ 2 ^ 32)
    (value : Int32) :
    ∃ sum count average, Rounded (List.replicate values.length value) sum count average := by
  refine ⟨_, _, _, rounded_div ?_ ?_⟩
  · rwa [ne_eq, List.replicate_eq_nil_iff, List.length_eq_zero_iff]
  · rwa [List.length_replicate]

/-- An average is at most one step away from the averages of copies, which are at most one
step away from the value that is copied, on the same side. -/
theorem noneBetween_range {sum count average : Binary32}
    (rounded : Rounded values sum count average) (few : values.length ≤ 2 ^ 24)
    (isLeast : values.argmin Int32.toInt = some least)
    (isGreatest : values.argmax Int32.toInt = some greatest) :
    NoneBetween average (Binary32.ofInt least.toInt) ∧
      NoneBetween (Binary32.ofInt greatest.toInt) average := by
  obtain ⟨lower, upper⟩ := exactSum_between_copies isLeast isGreatest
  obtain ⟨_, _, low, lows⟩ := rounded_replicate rounded.nonempty rounded.few least
  obtain ⟨_, _, high, highs⟩ := rounded_replicate rounded.nonempty rounded.few greatest
  have lowest := Binary32.toRat_le_iff.mp (lows.mono rounded List.length_replicate lower)
  have highest := Binary32.toRat_le_iff.mp (rounded.mono highs List.length_replicate.symm upper)
  have lowStep := (lows.rank_of_replicate few).2
  have highStep := (highs.rank_of_replicate few).1
  exact ⟨noneBetween_of_rank_le (by omega), noneBetween_of_rank_le (by omega)⟩

end

/-- An average is at most one step of the format outside the range from the least value to the
greatest, both rounded to binary numbers. It leaves that range at an end only if rounding takes
the sum past as many copies of the value there and their number is no power of two. -/
theorem averageOf_near_range {values : List Int32} (nonempty : values ≠ [])
    (few : values.length ≤ 2 ^ 24) :
    ∃ average least greatest, (Report.averageOf values).2 = .ok average ∧
      average.isFinite = true ∧ values.argmin Int32.toInt = some least ∧
      values.argmax Int32.toInt = some greatest ∧
      NoneBetween average (Binary32.ofInt least.toInt) ∧
      NoneBetween (Binary32.ofInt greatest.toInt) average ∧
      (values.length * least.toInt ≤ (Binary32.ofInt (exactSum values)).toRat ∨
          (∃ exponent, values.length = 2 ^ exponent) →
        (Binary32.ofInt least.toInt).toRat ≤ average.toRat) ∧
      ((Binary32.ofInt (exactSum values)).toRat ≤ values.length * greatest.toInt ∨
          (∃ exponent, values.length = 2 ^ exponent) →
        average.toRat ≤ (Binary32.ofInt greatest.toInt).toRat) := by
  have within : values.length ≤ 2 ^ 32 := few.trans (by decide)
  have rounded := rounded_div nonempty within
  obtain ⟨least, greatest, isLeast, isGreatest⟩ := exists_argmin_argmax nonempty
  obtain ⟨belowMean, aboveMean⟩ := exactMean_between nonempty isLeast isGreatest
  obtain ⟨below, above⟩ := noneBetween_range rounded few isLeast isGreatest
  exact ⟨_, least, greatest, averageOf_eq_div nonempty within, rounded.rounds.finite, isLeast,
    isGreatest, below, above, rounded.le_average few belowMean,
    rounded.average_le few aboveMean⟩

theorem averageOf_near_range_of_two :
    [2147483647, (2147483393 : Int32)] ≠ [] ∧
      [2147483647, (2147483393 : Int32)].length ≤ 2 ^ 24 ∧
      ∃ average, (Report.averageOf [2147483647, 2147483393]).2 = .ok average ∧
        (Binary32.ofInt 2147483393).toRat ≤ average.toRat ∧
        average.toRat ≤ (Binary32.ofInt 2147483647).toRat := by
  have nonempty : [2147483647, (2147483393 : Int32)] ≠ [] := by decide
  have few : [2147483647, (2147483393 : Int32)].length ≤ 2 ^ 24 := by decide
  obtain ⟨average, least, greatest, computed, _, isLeast, isGreatest, _, _, lower, upper⟩ :=
    averageOf_near_range nonempty few
  obtain rfl : 2147483393 = least := Option.some.inj isLeast
  obtain rfl : 2147483647 = greatest := Option.some.inj isGreatest
  have power : ∃ exponent, [2147483647, (2147483393 : Int32)].length = 2 ^ exponent := ⟨1, rfl⟩
  exact ⟨nonempty, few, average, computed, lower (Or.inr power), upper (Or.inr power)⟩

/-- Three copies of a value, whose sum `33554442` is rounded down by two, have an average below
that value, which is a binary number itself. -/
theorem averageOf_leaves_range :
    (Report.averageOf [11184814, 11184814, 11184814]).2 = .ok ⟨0x4b2aaaad⟩ ∧
      [11184814, 11184814, 11184814].argmin Int32.toInt = some 11184814 ∧
      Representable (11184814 : Int32).toInt ∧
      (⟨0x4b2aaaad⟩ : Binary32).toRat < (Binary32.ofInt (11184814 : Int32).toInt).toRat := by
  refine ⟨rfl, rfl, Binary32.representable_intCast (by decide), ?_⟩
  decide +kernel

end Average
end ScoreSheet
