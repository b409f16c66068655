import Mathlib.Algebra.Order.Ring.Abs
import ScoreSheet.Proofs.Binary.Interval

/-!
Finite codes under a sign, and what it means that a rational number is rounded to one: no
finite code under either sign is nearer, and on a tie the significand is even.  Between
numbers of one sign only the sizes count, so that this is the code nearest to the size; only a
zero has the same distance under both signs.
-/

namespace ScoreSheet

def withSign (negative : Bool) (size : ℚ) : ℚ :=
  if negative then -size else size

section

variable {negative otherNegative : Bool} {number size otherSize : ℚ}

theorem abs_withSign (negative : Bool) (size : ℚ) : |withSign negative size| = |size| := by
  cases negative
  · rfl
  · exact abs_neg size

theorem abs_sub_withSign (negative : Bool) (number size : ℚ) :
    |number - withSign negative size| = |withSign negative number - size| := by
  cases negative
  · rfl
  · rw [← abs_neg]
    change |-(number - -size)| = |-number - size|
    congr 1
    ring

theorem withSign_withSign (negative : Bool) (size : ℚ) :
    withSign negative (withSign negative size) = size := by
  cases negative
  · rfl
  · exact neg_neg size

theorem withSign_sub_withSign (negative : Bool) (size otherSize : ℚ) :
    |withSign negative size - withSign negative otherSize| = |size - otherSize| := by
  rw [abs_sub_withSign, withSign_withSign]

theorem abs_sub_le_withSign (negative otherNegative : Bool) (positive : 0 ≤ size)
    (otherPositive : 0 ≤ otherSize) :
    |size - otherSize| ≤ |withSign negative size - withSign otherNegative otherSize| := by
  have sizes := abs_abs_sub_abs_le (withSign negative size) (withSign otherNegative otherSize)
  rwa [abs_withSign, abs_withSign, abs_of_nonneg positive, abs_of_nonneg otherPositive] at sizes

theorem eq_zero_of_opposite_tie (different : withSign otherNegative size ≠ withSign negative size)
    (tie : |number - withSign otherNegative size| = |number - withSign negative size|) :
    number = 0 := by
  have opposed : withSign otherNegative size = -withSign negative size := by
    cases negative <;> cases otherNegative
    · exact absurd rfl different
    · rfl
    · exact (neg_neg size).symm
    · exact absurd rfl different
  rw [opposed] at different tie
  rcases abs_eq_abs.mp tie with same | mirrored
  · exact absurd (by linarith) different
  · linarith

theorem abs_eq_num_div_den (number : ℚ) : |number| = number.num.natAbs / number.den := by
  have parts := congrArg abs number.num_div_den
  rw [abs_div, Nat.abs_cast] at parts
  rw [Nat.cast_natAbs, Int.cast_abs, parts]

theorem two_mul_le_of_nearer {low high : ℚ} (ordered : low < high)
    (nearer : |number - low| ≤ |number - high|) : 2 * number ≤ low + high := by
  rcases abs_cases (number - low) with first | first <;>
    rcases abs_cases (number - high) with second | second <;> linarith

theorem le_two_mul_of_nearer {low high : ℚ} (ordered : low < high)
    (nearer : |number - high| ≤ |number - low|) : low + high ≤ 2 * number := by
  rcases abs_cases (number - low) with first | first <;>
    rcases abs_cases (number - high) with second | second <;> linarith

theorem abs_sub_eq_of_middle {low high : ℚ} (middle : 2 * number = low + high) :
    |number - low| = |number - high| := by
  rw [← abs_neg]
  congr 1
  linarith

end

namespace Format

def signed (format : Format) (negative : Bool) (code : Nat) : ℚ :=
  withSign negative (format.units code / format.one)

/-- A number rounded to the nearest finite code, ties going to the even significand. -/
structure IsNearest (format : Format) (exact : ℚ) (negative : Bool) (code : Nat) : Prop where
  finite : code < format.infinity
  nearest : ∀ otherNegative other, other < format.infinity →
    |exact - format.signed negative code| ≤ |exact - format.signed otherNegative other|
  even : ∀ otherNegative other, other < format.infinity →
    format.signed otherNegative other ≠ format.signed negative code →
      |exact - format.signed otherNegative other| = |exact - format.signed negative code| →
        format.significand code % 2 = 0

section

variable {format : Format} {exact size : ℚ} {negative : Bool} {code other : Nat}

theorem one_cast_pos (format : Format) : (0 : ℚ) < format.one := by
  exact_mod_cast format.one_pos

theorem size_nonneg (format : Format) (code : Nat) :
    (0 : ℚ) ≤ format.units code / format.one :=
  div_nonneg (Nat.cast_nonneg _) format.one_cast_pos.le

theorem distance_mul_one (format : Format) (size : ℚ) (code : Nat) :
    |size - format.units code / format.one| * format.one =
      |size * format.one - format.units code| := by
  have scale := format.one_cast_pos
  rw [← abs_of_pos scale, ← abs_mul, abs_of_pos scale, sub_mul, div_mul_cancel₀ _ scale.ne']

theorem size_distance_le (nearest : format.Nearest (size * format.one) code) (other : Nat) :
    |size - format.units code / format.one| ≤ |size - format.units other / format.one| := by
  apply le_of_mul_le_mul_right _ format.one_cast_pos
  rw [distance_mul_one, distance_mul_one]
  exact nearest.distance_le other

theorem size_tie_even (nearest : format.Nearest (size * format.one) code)
    (different : other ≠ code)
    (tie : |size - format.units other / format.one| = |size - format.units code / format.one|) :
    code % 2 = 0 := by
  have scaled := congrArg (· * (format.one : ℚ)) tie
  simp only [distance_mul_one] at scaled
  exact nearest.even_of_tie different scaled

theorem exists_nearest (wide : 0 < format.fractionBits) (positive : 0 ≤ size) :
    ∃ code, format.Nearest (size * format.one) code := by
  have nearest : format.Nearest (size.num.natAbs * format.one / size.den)
      (format.nearestCode size.num.natAbs size.den) := nearest_nearestCode wide size.den_pos
  rw [mul_div_right_comm, ← abs_eq_num_div_den, abs_of_nonneg positive] at nearest
  exact ⟨_, nearest⟩

theorem isNearest_of_nearest (wide : 0 < format.fractionBits) (negative : Bool)
    (positive : 0 ≤ size) (finite : code < format.infinity)
    (nearest : format.Nearest (size * format.one) code) :
    format.IsNearest (withSign negative size) negative code where
  finite := finite
  nearest otherNegative other _ := by
    rw [signed, withSign_sub_withSign]
    exact (size_distance_le nearest other).trans
      (abs_sub_le_withSign _ _ positive (format.size_nonneg other))
  even otherNegative other _ different tie := by
    rw [format.significand_mod_two wide]
    by_cases same : other = code
    · -- Only a zero is as near under the other sign, and zero is rounded to zero.
      rw [same] at different tie
      have zero := eq_zero_of_opposite_tie different tie
      have none : size = 0 := by
        rw [← abs_eq_zero, ← abs_withSign negative, zero, abs_zero]
      rw [none, zero_mul] at nearest
      rw [nearest.eq_zero_iff.mpr (by norm_num)]
    · apply size_tie_even nearest same
      apply le_antisymm _ (size_distance_le nearest other)
      rw [signed, signed, withSign_sub_withSign] at tie
      rw [← tie]
      exact abs_sub_le_withSign _ _ positive (format.size_nonneg other)

theorem IsNearest.withSign_abs (rounds : format.IsNearest exact negative code)
    (positive : 0 < code) : withSign negative |exact| = exact := by
  have scale := format.one_cast_pos
  have units : (0 : ℚ) < format.units code := by
    have least : (format.units 0 : ℚ) < format.units code := units_cast_lt positive
    exact (Nat.cast_nonneg _).trans_lt least
  have size : (0 : ℚ) < format.units code / format.one := div_pos units scale
  have zero : format.signed negative 0 = 0 := by
    rw [signed, format.units_of_subnormal format.leadingBit_pos, Nat.cast_zero, zero_div]
    cases negative
    · rfl
    · exact neg_zero
  have closer := rounds.nearest negative 0 (Nat.zero_lt_of_lt rounds.finite)
  rw [zero, sub_zero, signed, abs_sub_withSign, ← abs_withSign negative exact] at closer
  have nearer : |withSign negative exact - format.units code / format.one| ≤
      |withSign negative exact - 0| := by
    rwa [sub_zero]
  have above := le_two_mul_of_nearer size nearer
  rw [← abs_withSign negative exact, abs_of_nonneg (by linarith), withSign_withSign]

/-- Rounding a size gives the nearest code, as long as there is a finite code after it. -/
theorem IsNearest.nearest_size (rounds : format.IsNearest exact negative code)
    (wide : 0 < format.fractionBits) (positive : 0 < code) (inside : code + 1 < format.infinity) :
    format.Nearest (|exact| * format.one) code := by
  have scale := format.one_cast_pos
  have sign := rounds.withSign_abs positive
  have distance : ∀ other, |exact - format.signed negative other| * format.one =
      |(|exact| * format.one - format.units other)| := by
    intro other
    rw [signed, ← sign, withSign_sub_withSign, sign, distance_mul_one]
  have closer : ∀ other, other < format.infinity →
      |(|exact| * format.one - format.units code)| ≤
        |(|exact| * format.one - format.units other)| := by
    intro other finite
    rw [← distance, ← distance]
    exact mul_le_mul_of_nonneg_right (rounds.nearest negative other finite) scale.le
  have even : ∀ other, other < format.infinity → other ≠ code →
      |(|exact| * format.one - format.units other)| =
        |(|exact| * format.one - format.units code)| → code % 2 = 0 := by
    intro other finite different tie
    rw [← format.significand_mod_two wide]
    apply rounds.even negative other finite
    · intro same
      have sizes := congrArg (withSign negative) same
      rw [signed, signed, withSign_withSign, withSign_withSign, div_left_inj' scale.ne',
        Nat.cast_inj] at sizes
      exact different (format.units_strictMono.injective sizes)
    · apply mul_right_cancel₀ scale.ne'
      rw [distance, distance, tie]
  generalize |exact| * (format.one : ℚ) = scaled at closer even
  have next : (format.units code : ℚ) < format.units (code + 1) :=
    units_cast_lt (Nat.lt_succ_self code)
  exact {
    below := two_mul_le_of_nearer next (closer (code + 1) inside)
    above := by
      rintro previous rfl
      exact le_two_mul_of_nearer (units_cast_lt (Nat.lt_succ_self previous))
        (closer previous (by omega))
    even_below := fun tie => even (code + 1) inside (by omega) (abs_sub_eq_of_middle tie).symm
    even_above := by
      rintro previous rfl tie
      exact even previous (by omega) (by omega) (abs_sub_eq_of_middle tie.symm) }

end

end Format
end ScoreSheet
