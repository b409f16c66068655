import Mathlib.Algebra.Order.Field.Power
import ScoreSheet.Decimal.Literal
import ScoreSheet.Proofs.Binary.Signed

/-!
A decimal is rounded once, to the code nearest to the exact number that it stands for.  This is
so whatever its digits and its exponent: those that are told apart by their position alone are
so large that no finite code is nearest to them, or so small that zero is.
-/

namespace ScoreSheet

theorem digitsText_length (number : Nat) :
    (digitsText number).length = (Nat.toDigits 10 number).length := by
  rw [digitsText, Nat.toString_eq_ofList_toDigits, String.length_ofList]

theorem digitsText_length_pos (number : Nat) : 0 < (digitsText number).length := by
  rw [digitsText_length]
  exact Nat.length_toDigits_pos

theorem lt_ten_pow_length (number : Nat) : number < 10 ^ (digitsText number).length := by
  rw [digitsText_length]
  exact (Nat.length_toDigits_le_iff (by decide) Nat.length_toDigits_pos).mp le_rfl

theorem ten_pow_le_of_length {number : Nat} (positive : 0 < number) :
    10 ^ ((digitsText number).length - 1) ≤ number := by
  have some := digitsText_length_pos number
  rw [digitsText_length] at some ⊢
  by_cases single : (Nat.toDigits 10 number).length - 1 = 0
  · rw [single, Nat.pow_zero]
    exact positive
  · by_contra less
    have shorter := (Nat.length_toDigits_le_iff (b := 10) (by decide)
      (Nat.pos_of_ne_zero single)).mpr (not_le.mp less)
    omega

namespace Decimal

def toRat (decimal : Decimal) : ℚ :=
  decimal.digits * 10 ^ decimal.exponent

variable {decimal : Decimal} {format : Format} {code : Nat}

theorem ten_zpow_pos (exponent : Int) : (0 : ℚ) < 10 ^ exponent :=
  zpow_pos (by norm_num) exponent

theorem ten_zpow_le {low high : Int} (ordered : low ≤ high) : (10 : ℚ) ^ low ≤ 10 ^ high :=
  zpow_le_zpow_right₀ (by norm_num) ordered

theorem ten_zpow_add (first second : Int) :
    (10 : ℚ) ^ (first + second) = 10 ^ first * 10 ^ second :=
  zpow_add₀ (by norm_num) first second

theorem toRat_nonneg (decimal : Decimal) : 0 ≤ decimal.toRat :=
  mul_nonneg (Nat.cast_nonneg _) (ten_zpow_pos _).le

theorem toRat_lt (decimal : Decimal) : decimal.toRat < 10 ^ decimal.position := by
  rw [position, ten_zpow_add, zpow_natCast, toRat]
  apply mul_lt_mul_of_pos_right _ (ten_zpow_pos _)
  exact_mod_cast lt_ten_pow_length decimal.digits

theorem ten_zpow_le_toRat (positive : 0 < decimal.digits) :
    10 ^ (decimal.position - 1) ≤ decimal.toRat := by
  have some := digitsText_length_pos decimal.digits
  have parts : decimal.position - 1 =
      ((digitsText decimal.digits).length - 1 : Nat) + decimal.exponent := by
    rw [position]
    omega
  rw [parts, ten_zpow_add, zpow_natCast, toRat]
  apply mul_le_mul_of_nonneg_right _ (ten_zpow_pos _).le
  exact_mod_cast ten_pow_le_of_length positive

theorem units_infinity_le (regular : format.Regular) (positive : 0 < decimal.digits)
    (large : (format.exponentLimit : Int) < decimal.position) :
    (format.units format.infinity : ℚ) ≤ decimal.toRat * format.one := by
  have exponents : format.fractionBits + (format.exponentLimit - 1) ≤
      format.exponentLimit + format.fineness := by
    have ranged := regular.ranged
    have fine := regular.fine
    omega
  have powers : format.units format.infinity ≤ 10 ^ format.exponentLimit * format.one := by
    rw [regular.units_infinity, format.leadingBit_eq, ← Nat.pow_add, Format.one, Nat.shiftLeft_eq,
      Nat.one_mul]
    calc
      _ ≤ 2 ^ (format.exponentLimit + format.fineness) := Nat.pow_le_pow_right Nat.two_pos exponents
      _ = 2 ^ format.exponentLimit * 2 ^ format.fineness := Nat.pow_add _ _ _
      _ ≤ _ := Nat.mul_le_mul_right _ (Nat.pow_le_pow_left (by decide) _)
  have least : (10 : ℚ) ^ format.exponentLimit ≤ decimal.toRat := by
    rw [← zpow_natCast]
    exact (ten_zpow_le (by omega)).trans (ten_zpow_le_toRat positive)
  calc
    (format.units format.infinity : ℚ) ≤ 10 ^ format.exponentLimit * format.one := by
      exact_mod_cast powers
    _ ≤ decimal.toRat * format.one := mul_le_mul_of_nonneg_right least format.one_cast_pos.le

theorem two_mul_lt_one (small : decimal.position < -(format.fineness : Int)) :
    2 * (decimal.toRat * format.one) < 1 := by
  have most : decimal.toRat < 1 / 10 ^ (format.fineness + 1) := by
    rw [one_div, ← zpow_natCast, ← zpow_neg]
    exact decimal.toRat_lt.trans_le (ten_zpow_le (by push_cast; omega))
  have one : (format.one : ℚ) = 2 ^ format.fineness := by
    rw [Format.one, Nat.shiftLeft_eq, Nat.one_mul, Nat.cast_pow, Nat.cast_ofNat]
  have scaled := mul_lt_mul_of_pos_right most format.one_cast_pos
  have powers : (2 : ℚ) ^ (format.fineness + 1) ≤ 10 ^ (format.fineness + 1) :=
    pow_le_pow_left₀ (by norm_num) (by norm_num) _
  have bound : 2 * (1 / 10 ^ (format.fineness + 1) * (format.one : ℚ)) ≤ 1 := by
    rw [one, one_div_mul_eq_div, ← mul_div_assoc, ← pow_succ', div_le_one (by positivity)]
    exact powers
  linarith

/-- A decimal in range is rounded as the quotient of two whole numbers. -/
theorem exists_round_ratio (format : Format) (positive : decimal.digits ≠ 0)
    (notLarge : ¬ (format.exponentLimit : Int) < decimal.position)
    (notSmall : ¬ decimal.position < -(format.fineness : Int)) :
    ∃ numerator denominator, 0 < denominator ∧
      decimal.toRat = (numerator : Nat) / (denominator : Nat) ∧
        decimal.round format = format.round numerator denominator := by
  obtain ⟨digits, exponent⟩ := decimal
  rw [round, if_neg positive, if_neg notLarge, if_neg notSmall]
  cases exponent with
  | ofNat power =>
      refine ⟨digits * Nat.pow 10 power, 1, Nat.one_pos, ?_, rfl⟩
      change (digits : ℚ) * 10 ^ (power : Int) = _
      rw [zpow_natCast, Nat.cast_one, div_one, Nat.cast_mul]
      exact congrArg ((digits : ℚ) * ·) (Nat.cast_pow 10 power).symm
  | negSucc power =>
      refine ⟨digits, Nat.pow 10 (power + 1), Nat.pow_pos (by decide), ?_, rfl⟩
      change (digits : ℚ) * 10 ^ Int.negSucc power = _
      rw [zpow_negSucc, ← div_eq_mul_inv]
      exact congrArg ((digits : ℚ) / ·) (Nat.cast_pow 10 (power + 1)).symm

/-- A decimal is rounded to the code that is nearest to it, or to infinity if that is no finite
code. -/
theorem exists_nearest_round (regular : format.Regular) (decimal : Decimal) :
    ∃ code, format.Nearest (decimal.toRat * format.one) code ∧
      decimal.round format = min code format.infinity := by
  by_cases zero : decimal.digits = 0
  · refine ⟨0, ?_, by rw [round, if_pos zero, Nat.zero_min]⟩
    have none := format.nearest_units 0
    rw [format.units_of_subnormal format.leadingBit_pos] at none
    rwa [toRat, zero, Nat.cast_zero, zero_mul, zero_mul]
  · by_cases large : (format.exponentLimit : Int) < decimal.position
    · obtain ⟨code, nearest⟩ := Format.exists_nearest regular.wide decimal.toRat_nonneg
      refine ⟨code, nearest, ?_⟩
      have reached := units_infinity_le regular (Nat.pos_of_ne_zero zero) large
      rw [round, if_neg zero, if_pos large, Nat.min_eq_right (nearest.le_of_units_le reached)]
    · by_cases small : decimal.position < -(format.fineness : Int)
      · obtain ⟨code, nearest⟩ := Format.exists_nearest regular.wide decimal.toRat_nonneg
        refine ⟨code, nearest, ?_⟩
        rw [round, if_neg zero, if_neg large, if_pos small,
          nearest.eq_zero_iff.mpr (two_mul_lt_one small).le, Nat.zero_min]
      · obtain ⟨numerator, denominator, positive, ratio, rounded⟩ :=
          exists_round_ratio format zero large small
        refine ⟨format.nearestCode numerator denominator, ?_, ?_⟩
        · rw [ratio, div_mul_eq_mul_div]
          exact Format.nearest_nearestCode regular.wide positive
        · rw [rounded, Format.round_eq_min]

theorem round_eq_iff (regular : format.Regular) (finite : code < format.infinity) :
    decimal.round format = code ↔ format.Nearest (decimal.toRat * format.one) code := by
  obtain ⟨reached, nearest, rounded⟩ := exists_nearest_round regular decimal
  constructor
  · intro same
    have code_eq : reached = code := by omega
    rwa [← code_eq]
  · intro other
    rw [rounded, nearest.unique other, Nat.min_eq_left finite.le]

theorem round_le_infinity (regular : format.Regular) (decimal : Decimal) :
    decimal.round format ≤ format.infinity := by
  obtain ⟨code, _, rounded⟩ := exists_nearest_round regular decimal
  rw [rounded]
  exact Nat.min_le_right _ _

theorem isNearest_round (regular : format.Regular) (negative : Bool)
    (small : decimal.toRat < format.overflow) :
    format.IsNearest (withSign negative decimal.toRat) negative (decimal.round format) := by
  obtain ⟨code, nearest, rounded⟩ := exists_nearest_round regular decimal
  have finite := (regular.lt_infinity_iff nearest).mpr small
  rw [rounded, Nat.min_eq_left finite.le]
  exact Format.isNearest_of_nearest regular.wide negative decimal.toRat_nonneg finite nearest

theorem round_eq_infinity (regular : format.Regular) (large : format.overflow ≤ decimal.toRat) :
    decimal.round format = format.infinity := by
  obtain ⟨code, nearest, rounded⟩ := exists_nearest_round regular decimal
  have infinite := (regular.lt_infinity_iff nearest).not.mpr (not_lt.mpr large)
  rw [rounded, Nat.min_eq_right (not_lt.mp infinite)]

end Decimal
end ScoreSheet
