import Mathlib.Data.Int.ConditionallyCompleteOrder
import ScoreSheet.Proofs.Binary.Precision

/-!
Binary numbers of 32 bits in the order of their values.  That order is the order of their
ranks, which are whole numbers, so that a number has one next to it on either side.
Rounding keeps the order, and numbers that differ by one rounding are rounded to the same
number or to two next to each other.
-/

namespace ScoreSheet
namespace Binary32

def numberAt (rank : Int) : ℚ :=
  if rank < 0 then -(Format.binary32.units rank.natAbs / Format.binary32.one)
  else Format.binary32.units rank.natAbs / Format.binary32.one

theorem numberAt_natCast (code : Nat) :
    numberAt code = Format.binary32.units code / Format.binary32.one := by
  rw [numberAt, if_neg (by omega), Int.natAbs_natCast]

theorem numberAt_neg_natCast (code : Nat) :
    numberAt (-(code : Int)) = -(Format.binary32.units code / Format.binary32.one) := by
  by_cases zero : code = 0
  · rw [zero, numberAt, if_neg (by decide)]
    change (Format.binary32.units 0 : ℚ) / _ = -((Format.binary32.units 0 : ℚ) / _)
    rw [Format.units_zero, Nat.cast_zero, zero_div, neg_zero]
  · rw [numberAt, if_pos (by omega), Int.natAbs_neg, Int.natAbs_natCast]

theorem numberAt_strictMono : StrictMono numberAt := by
  have step : ∀ code : Nat,
      (Format.binary32.units code : ℚ) / Format.binary32.one <
        Format.binary32.units (code + 1) / Format.binary32.one := fun code =>
    div_lt_div_of_pos_right (Format.units_cast_lt (Nat.lt_succ_self code)) one_cast_pos
  apply strictMono_int_of_lt_succ
  intro rank
  cases rank with
  | ofNat code =>
      change numberAt (code : Int) < numberAt ((code + 1 : Nat) : Int)
      rw [numberAt_natCast, numberAt_natCast]
      exact step code
  | negSucc code =>
      have next : Int.negSucc code + 1 = -(code : Int) := by omega
      have this : Int.negSucc code = -((code + 1 : Nat) : Int) := rfl
      rw [next, this, numberAt_neg_natCast, numberAt_neg_natCast]
      exact neg_lt_neg (step code)

section

variable {value other left right : Binary32}

theorem toRat_eq_numberAt (value : Binary32) : value.toRat = numberAt value.rank := by
  unfold toRat rank
  split
  · exact (numberAt_neg_natCast value.magnitude).symm
  · exact (numberAt_natCast value.magnitude).symm

theorem toRat_le_iff : left.toRat ≤ right.toRat ↔ left.rank ≤ right.rank := by
  rw [toRat_eq_numberAt, toRat_eq_numberAt]
  exact numberAt_strictMono.le_iff_le

theorem toRat_lt_iff : left.toRat < right.toRat ↔ left.rank < right.rank := by
  rw [toRat_eq_numberAt, toRat_eq_numberAt]
  exact numberAt_strictMono.lt_iff_lt

/-- Finite numbers are compared by their values, so that a zero is not below the other one. -/
theorem lt_iff_of_finite (finite : left.isFinite = true) (rightFinite : right.isFinite = true) :
    left.lt right = true ↔ left.toRat < right.toRat := by
  rw [toRat_lt_iff, lt, isNaN_of_finite finite, isNaN_of_finite rightFinite]
  exact decide_eq_true_iff

theorem isFinite_or_isInfinite (number : value.isNaN = false) :
    value.isFinite = true ∨ value.isInfinite = true := by
  have atMost : ¬ Format.binary32.infinity < value.magnitude := of_decide_eq_false number
  rcases Nat.lt_or_eq_of_le (Nat.le_of_not_lt atMost) with inside | same
  · exact Or.inl (decide_eq_true inside)
  · exact Or.inr (beq_iff_eq.mpr same)

theorem eq_infinity (infinite : value.isInfinite = true) : value = infinity value.isNegative := by
  have bounded : Format.binary32.infinity < signBit := by decide
  apply eq_of_parts
  · rw [infinity, isNegative_ofMagnitude _ bounded]
  · rw [infinity, magnitude_ofMagnitude _ bounded]
    exact beq_iff_eq.mp infinite

theorem abs_rank (value : Binary32) : |value.rank| = value.magnitude := by
  unfold rank
  split
  · rw [abs_neg, Nat.abs_cast]
  · exact Nat.abs_cast _

theorem lt_iff_of_right_finite (finite : right.isFinite = true) :
    left.lt right = true ↔
      left.isNaN = false ∧
        (left = infinity true ∨ left.isFinite = true ∧ left.toRat < right.toRat) := by
  have number := isNaN_of_finite finite
  have inside : (right.magnitude : Int) < Format.binary32.infinity := by
    exact_mod_cast of_decide_eq_true finite
  rw [← abs_rank, abs_lt] at inside
  constructor
  · intro below
    simp only [lt, number, Bool.and_eq_true, Bool.not_eq_true', decide_eq_true_eq] at below
    obtain ⟨⟨leftNumber, _⟩, ordered⟩ := below
    refine ⟨leftNumber, ?_⟩
    rcases isFinite_or_isInfinite leftNumber with leftFinite | infinite
    · exact Or.inr ⟨leftFinite, toRat_lt_iff.mpr ordered⟩
    · left
      have size : left.magnitude = Format.binary32.infinity := beq_iff_eq.mp infinite
      cases sign : left.isNegative with
      | true => rw [← sign, ← eq_infinity infinite]
      | false =>
          rw [rank, sign, if_neg Bool.false_ne_true, size] at ordered
          omega
  · rintro ⟨leftNumber, rfl | ⟨leftFinite, below⟩⟩
    · have least : (infinity true).rank = -(Format.binary32.infinity : Int) := by decide
      simp only [lt, leftNumber, number, least, Bool.not_false, Bool.true_and, decide_eq_true_eq]
      omega
    · exact (lt_iff_of_finite leftFinite finite).mpr below

theorem rank_le_add_one (signs : value.isNegative = other.isNegative)
    (above : value.magnitude ≤ other.magnitude + 1)
    (below : other.magnitude ≤ value.magnitude + 1) :
    value.rank ≤ other.rank + 1 ∧ other.rank ≤ value.rank + 1 := by
  unfold rank
  rw [signs]
  split <;> omega

end

section

variable {exact other : ℚ} {value otherValue : Binary32}

theorem RoundsTo.mono (rounds : RoundsTo exact value) (otherRounds : RoundsTo other otherValue)
    (ordered : exact ≤ other) : value.toRat ≤ otherValue.toRat := by
  by_contra crossed
  rw [not_le] at crossed
  -- Both numbers would be halfway between the two results, and so the same.
  have closest := rounds.nearest otherValue otherRounds.finite
  have otherClosest := otherRounds.nearest value rounds.finite
  have low : value.toRat + otherValue.toRat ≤ 2 * exact := by
    rcases abs_cases (exact - value.toRat) with first | first <;>
      rcases abs_cases (exact - otherValue.toRat) with second | second <;> linarith
  have high : 2 * other ≤ value.toRat + otherValue.toRat := by
    rcases abs_cases (other - value.toRat) with first | first <;>
      rcases abs_cases (other - otherValue.toRat) with second | second <;> linarith
  obtain rfl : exact = other := le_antisymm ordered (by linarith)
  rw [rounds.unique otherRounds] at crossed
  exact lt_irrefl _ crossed

/-- Numbers of one sign that differ by one rounding are rounded to numbers of which neither
has two others next to it on the way to the other one. -/
theorem RoundsTo.rank_le_add_one (rounds : RoundsTo exact value)
    (otherRounds : RoundsTo other otherValue) (small : |exact| < 2 ^ 127)
    (otherSmall : |other| < 2 ^ 127) (signs : exact < 0 ↔ other < 0)
    (close : Within Format.binary32.roundingFactor |exact| |other|) :
    value.rank ≤ otherValue.rank + 1 ∧ otherValue.rank ≤ value.rank + 1 := by
  have nearest := rounds.nearest_magnitude small
  have otherNearest := otherRounds.nearest_magnitude otherSmall
  have scale := one_cast_pos
  apply Binary32.rank_le_add_one
  · exact Bool.eq_iff_iff.mpr (rounds.sign.trans (signs.trans otherRounds.sign.symm))
  · apply otherNearest.le_succ nearest
    rw [← mul_assoc]
    exact mul_le_mul_of_nonneg_right close.left_le scale.le
  · apply nearest.le_succ otherNearest
    rw [← mul_assoc]
    exact mul_le_mul_of_nonneg_right close.right_le scale.le

end

end Binary32
end ScoreSheet
