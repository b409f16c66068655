import ScoreSheet.Proofs.Binary.Nearest

/-!
The numbers that are rounded to one code.  They make up an interval around the value of the
code, so that rounding keeps the order of numbers and a number is rounded to one code only.
Halfway between the largest finite code and the one after it the finite codes end.
-/

namespace ScoreSheet
namespace Format

variable {format : Format} {exact middle other : ℚ} {code otherCode : Nat}

theorem nearest_units (format : Format) (code : Nat) :
    format.Nearest (format.units code) code := by
  have next : (format.units code : ℚ) < format.units (code + 1) :=
    units_cast_lt (Nat.lt_succ_self code)
  have before : ∀ previous, previous + 1 = code →
      (format.units previous : ℚ) < format.units code := by
    rintro previous rfl
    exact units_cast_lt (Nat.lt_succ_self previous)
  exact {
    below := by linarith
    above := fun previous precedes => by
      have less := before previous precedes
      linarith
    even_below := fun tie => by linarith
    even_above := fun previous precedes tie => by
      have less := before previous precedes
      linarith }

theorem Nearest.between (nearest : format.Nearest exact code)
    (nearestOther : format.Nearest other code) (above : exact ≤ middle) (below : middle ≤ other) :
    format.Nearest middle code where
  below := by
    have bound := nearestOther.below
    linarith
  above previous precedes := by
    have bound := nearest.above previous precedes
    linarith
  even_below tie := by
    have bound := nearestOther.below
    exact nearestOther.even_below (by linarith)
  even_above previous precedes tie := by
    have bound := nearest.above previous precedes
    exact nearest.even_above previous precedes (by linarith)

theorem Nearest.le (nearest : format.Nearest exact code)
    (nearestOther : format.Nearest other otherCode) (ordered : exact ≤ other) :
    code ≤ otherCode := by
  by_contra crossed
  rw [not_le] at crossed
  obtain ⟨previous, rfl⟩ := Nat.exists_eq_add_one_of_ne_zero (Nat.ne_zero_of_lt crossed)
  have high := nearest.above previous rfl
  have low := nearestOther.below
  have next : (format.units (otherCode + 1) : ℚ) ≤ format.units (previous + 1) :=
    units_cast_le crossed
  rcases Nat.lt_or_eq_of_le (Nat.le_of_lt_succ crossed) with before | rfl
  · have apart : (format.units otherCode : ℚ) < format.units previous := units_cast_lt before
    linarith
  · -- Both numbers would be halfway between two neighbours, and both of these even.
    have even := nearest.even_above otherCode rfl (by linarith)
    have otherEven := nearestOther.even_below (by linarith)
    omega

theorem Nearest.unique (nearest : format.Nearest exact code)
    (nearestOther : format.Nearest exact otherCode) : code = otherCode :=
  Nat.le_antisymm (nearest.le nearestOther le_rfl) (nearestOther.le nearest le_rfl)

theorem Nearest.le_of_units_le (nearest : format.Nearest exact code)
    (reached : (format.units otherCode : ℚ) ≤ exact) : otherCode ≤ code :=
  (format.nearest_units otherCode).le nearest reached

/-- Zero is what numbers up to half of the least positive value are rounded to. -/
theorem Nearest.eq_zero_iff (nearest : format.Nearest exact code) :
    code = 0 ↔ 2 * exact ≤ 1 := by
  have none : format.units 0 = 0 := format.units_of_subnormal format.leadingBit_pos
  constructor
  · rintro rfl
    have low := nearest.below
    have least : format.units (0 + 1) = 1 := by
      rw [units_succ, none, format.shift_eq_zero format.leadingBit_pos]
      rfl
    rwa [none, least, Nat.cast_zero, Nat.cast_one, zero_add] at low
  · intro small
    by_contra positive
    obtain ⟨previous, rfl⟩ := Nat.exists_eq_add_one_of_ne_zero positive
    have high := nearest.above previous rfl
    have least : (1 : ℚ) ≤ format.units (previous + 1) := by
      exact_mod_cast Nat.one_le_iff_ne_zero.mpr
        (Nat.ne_zero_of_lt (format.units_strictMono (Nat.lt_succ_self previous)))
    have nonneg : (0 : ℚ) ≤ format.units previous := Nat.cast_nonneg _
    have even := nearest.even_above previous rfl (by linarith)
    have before : format.units previous = format.units 0 := by
      rw [none]
      exact_mod_cast le_antisymm (by linarith) nonneg
    rw [format.units_strictMono.injective before] at even
    cases even

/-- What this theory asks of a format: codes that are even where a significand begins, finite
codes, and a least positive value that is not too large for ones to be told apart. -/
structure Regular (format : Format) : Prop where
  wide : 0 < format.fractionBits
  ranged : 0 < format.exponentLimit
  fine : format.fractionBits ≤ format.fineness + 1

theorem regular_binary32 : binary32.Regular := ⟨by decide, by decide, by decide⟩

theorem regular_binary64 : binary64.Regular := ⟨by decide, by decide, by decide⟩

/-- Halfway between the largest finite code and infinity, taken as the code after it. -/
def overflow (format : Format) : ℚ :=
  (format.units (format.infinity - 1) + format.units format.infinity) / (2 * format.one)

namespace Regular

theorem infinity_pos (regular : format.Regular) : 0 < format.infinity :=
  Nat.mul_pos regular.ranged format.leadingBit_pos

theorem infinity_even (regular : format.Regular) : format.infinity % 2 = 0 :=
  format.mul_leadingBit_even regular.wide format.exponentLimit

theorem units_infinity (regular : format.Regular) :
    format.units format.infinity = format.leadingBit * 2 ^ (format.exponentLimit - 1) := by
  obtain ⟨limit, more⟩ := Nat.exists_eq_add_one_of_ne_zero regular.ranged.ne'
  have parts : format.infinity = limit * format.leadingBit + format.leadingBit := by
    rw [infinity, more, Nat.add_mul, Nat.one_mul]
  rw [parts, format.units_mul_add (Or.inr le_rfl) (by omega), more, Nat.add_sub_cancel]

theorem lt_infinity_iff (regular : format.Regular)
    (nearest : format.Nearest (exact * format.one) code) :
    code < format.infinity ↔ exact < format.overflow := by
  have one : (0 : ℚ) < format.one := by exact_mod_cast format.one_pos
  have positive := regular.infinity_pos
  have even := regular.infinity_even
  rw [overflow, lt_div_iff₀ (by linarith)]
  constructor
  · intro finite
    by_contra reached
    rw [not_lt] at reached
    have low := nearest.below
    have last : (format.units code : ℚ) ≤ format.units (format.infinity - 1) :=
      units_cast_le (Nat.le_sub_one_of_lt finite)
    have next : (format.units (code + 1) : ℚ) ≤ format.units format.infinity :=
      units_cast_le finite
    have same : format.units (code + 1) = format.units format.infinity := by
      exact_mod_cast le_antisymm next (by linarith)
    have last_eq := format.units_strictMono.injective same
    have tie := nearest.even_below (by linarith)
    omega
  · intro below
    by_contra beyond
    rw [not_lt] at beyond
    obtain ⟨previous, rfl⟩ := Nat.exists_eq_add_one_of_ne_zero (by omega : code ≠ 0)
    have high := nearest.above previous rfl
    have last : (format.units (format.infinity - 1) : ℚ) ≤ format.units previous :=
      units_cast_le (by omega)
    have next : (format.units format.infinity : ℚ) ≤ format.units (previous + 1) :=
      units_cast_le beyond
    linarith

end Regular
end Format
end ScoreSheet
