import ScoreSheet.Proofs.Binary.RoundsTo

/-!
How much rounding can change a number.  The step from a code to the next one is at most one
part in `leadingBit` of its value, unless the code is subnormal, so a number and the nearest
code differ by half of that at most.  This is kept as a factor that bounds either number by
the other: factors of several roundings multiply, and numbers that differ by one such factor
have codes that differ by one at most.
-/

namespace ScoreSheet

/-- Neither of two numbers is more than so many times the other. -/
structure Within (factor left right : ℚ) : Prop where
  left_le : left ≤ factor * right
  right_le : right ≤ factor * left

namespace Within

variable {factor otherFactor left middle right : ℚ}

theorem trans (positive : 0 ≤ factor) (otherPositive : 0 ≤ otherFactor)
    (first : Within factor left middle) (second : Within otherFactor middle right) :
    Within (factor * otherFactor) left right where
  left_le := by
    calc
      left ≤ factor * middle := first.left_le
      _ ≤ factor * (otherFactor * right) := mul_le_mul_of_nonneg_left second.left_le positive
      _ = factor * otherFactor * right := (mul_assoc _ _ _).symm
  right_le := by
    calc
      right ≤ otherFactor * middle := second.right_le
      _ ≤ otherFactor * (factor * left) :=
        mul_le_mul_of_nonneg_left first.right_le otherPositive
      _ = factor * otherFactor * left := by ring

private theorem div_le_mul_div {top otherTop bottom otherBottom : ℚ} (positive : 0 < bottom)
    (otherPositive : 0 < otherBottom) (factorPositive : 0 ≤ factor) (topPositive : 0 ≤ otherTop)
    (tops : top ≤ factor * otherTop) (bottoms : otherBottom ≤ otherFactor * bottom) :
    top / bottom ≤ factor * otherFactor * (otherTop / otherBottom) := by
  rw [div_le_iff₀ positive, ← mul_div_assoc, div_mul_eq_mul_div, le_div_iff₀ otherPositive]
  calc
    top * otherBottom ≤ factor * otherTop * otherBottom :=
      mul_le_mul_of_nonneg_right tops otherPositive.le
    _ ≤ factor * otherTop * (otherFactor * bottom) :=
      mul_le_mul_of_nonneg_left bottoms (mul_nonneg factorPositive topPositive)
    _ = factor * otherFactor * otherTop * bottom := by ring

theorem div {bottom otherBottom : ℚ} (tops : Within factor left right)
    (bottoms : Within otherFactor bottom otherBottom) (factorPositive : 0 ≤ factor)
    (leftPositive : 0 ≤ left) (rightPositive : 0 ≤ right) (positive : 0 < bottom)
    (otherPositive : 0 < otherBottom) :
    Within (factor * otherFactor) (left / bottom) (right / otherBottom) where
  left_le := div_le_mul_div positive otherPositive factorPositive rightPositive tops.left_le
    bottoms.right_le
  right_le := div_le_mul_div otherPositive positive factorPositive leftPositive tops.right_le
    bottoms.left_le

theorem div_right {bottom : ℚ} (within : Within factor left right) (positive : 0 < bottom) :
    Within factor (left / bottom) (right / bottom) where
  left_le := by
    rw [← mul_div_assoc]
    exact div_le_div_of_nonneg_right within.left_le positive.le
  right_le := by
    rw [← mul_div_assoc]
    exact div_le_div_of_nonneg_right within.right_le positive.le

theorem abs_sub_le (within : Within factor left right) (above : 1 ≤ factor) :
    |left - right| ≤ (factor - 1) * right := by
  have left_le := within.left_le
  have right_le := within.right_le
  rcases le_total left right with below | beyond
  · rw [abs_of_nonpos (show left - right ≤ 0 by linarith)]
    have smaller := mul_le_mul_of_nonneg_left below (show 0 ≤ factor - 1 by linarith)
    linarith
  · rw [abs_of_nonneg (show 0 ≤ left - right by linarith)]
    linarith

end Within

namespace Format

variable {format : Format}

/-- What rounding can multiply or divide a number by at most, unless the number is too
small for a leading bit. -/
def roundingFactor (format : Format) : ℚ :=
  1 + 1 / (2 * format.leadingBit)

theorem leadingBit_cast_pos (format : Format) : (0 : ℚ) < format.leadingBit := by
  exact_mod_cast format.leadingBit_pos

theorem one_le_roundingFactor (format : Format) : 1 ≤ format.roundingFactor := by
  have part : 0 ≤ 1 / (2 * (format.leadingBit : ℚ)) := by positivity
  unfold roundingFactor
  linarith

theorem le_roundingFactor_mul_iff {number other : ℚ} :
    number ≤ format.roundingFactor * other ↔
      2 * format.leadingBit * (number - other) ≤ other := by
  have leading := format.leadingBit_cast_pos
  have scale : (0 : ℚ) < 2 * format.leadingBit := by linarith
  rw [roundingFactor, add_mul, one_mul, one_div, ← div_eq_inv_mul, ← sub_le_iff_le_add',
    le_div_iff₀ scale, mul_comm]

/-! ### Steps between codes -/

theorem units_zero (format : Format) : format.units 0 = 0 :=
  format.units_of_subnormal format.leadingBit_pos

theorem units_leadingBit (format : Format) :
    format.units format.leadingBit = format.leadingBit := by
  have value : format.units (0 * format.leadingBit + format.leadingBit) =
      format.leadingBit * 2 ^ 0 := format.units_mul_add (Or.inl rfl) (by omega)
  rwa [Nat.zero_mul, Nat.zero_add, Nat.pow_zero, Nat.mul_one] at value

theorem shift_mono (format : Format) : Monotone format.shift := fun _ _ ordered =>
  Nat.sub_le_sub_right (Nat.div_le_div_right ordered) 1

theorem units_succ_cast (format : Format) (code : Nat) :
    (format.units (code + 1) : ℚ) = format.units code + 2 ^ format.shift code := by
  exact_mod_cast format.units_succ code

theorem leadingBit_mul_step_le {number : ℚ} {code : Nat}
    (normal : (format.leadingBit : ℚ) ≤ number) (reached : (format.units code : ℚ) ≤ number) :
    (format.leadingBit : ℚ) * 2 ^ format.shift code ≤ number := by
  by_cases unshifted : format.shift code = 0
  · rwa [unshifted, pow_zero, mul_one]
  · have full := Nat.mul_le_mul_right (2 ^ format.shift code)
      (format.leadingBit_le_significand unshifted)
    rw [← units_eq] at full
    have value : (format.leadingBit : ℚ) * 2 ^ format.shift code ≤ format.units code := by
      exact_mod_cast full
    exact value.trans reached

theorem units_le_step (format : Format) (code : Nat) :
    (format.units (code + 1) : ℚ) ≤ 2 * format.leadingBit * 2 ^ format.shift code := by
  have significands : (format.significand code + 1) * 2 ^ format.shift code ≤
      2 * format.leadingBit * 2 ^ format.shift code :=
    Nat.mul_le_mul_right _ (format.significand_lt code)
  rw [Nat.add_mul, Nat.one_mul, ← units_eq, ← units_succ] at significands
  exact_mod_cast significands

section

variable {exact other : ℚ} {code otherCode : Nat}

theorem Nearest.leadingBit_le (nearest : format.Nearest exact code)
    (normal : (format.leadingBit : ℚ) ≤ exact) : format.leadingBit ≤ code := by
  by_contra subnormal
  rw [not_le] at subnormal
  have low := nearest.below
  have value : (format.units code : ℚ) < format.units format.leadingBit :=
    units_cast_lt subnormal
  have next : (format.units (code + 1) : ℚ) ≤ format.units format.leadingBit :=
    units_cast_le subnormal
  rw [units_leadingBit] at value next
  linarith

theorem Nearest.within (nearest : format.Nearest exact code)
    (normal : (format.leadingBit : ℚ) ≤ exact) :
    Within format.roundingFactor (format.units code) exact := by
  have leading := format.leadingBit_cast_pos
  constructor
  · rw [le_roundingFactor_mul_iff]
    rcases le_total (format.units code : ℚ) exact with below | above
    · have less := mul_nonpos_of_nonneg_of_nonpos
        (show 0 ≤ 2 * (format.leadingBit : ℚ) by linarith)
        (show format.units code - exact ≤ 0 by linarith)
      linarith
    · -- The code before the nearest one is not above the number.
      obtain ⟨previous, rfl⟩ := Nat.exists_eq_add_one_of_ne_zero
        (Nat.ne_zero_of_lt (lt_of_lt_of_le format.leadingBit_pos (nearest.leadingBit_le normal)))
      have high := nearest.above previous rfl
      have reached : (format.units previous : ℚ) ≤ exact := by linarith
      have step := leadingBit_mul_step_le normal reached
      have next := format.units_succ_cast previous
      have half : 2 * (format.units (previous + 1) - exact) ≤ 2 ^ format.shift previous := by
        linarith
      have scaled := mul_le_mul_of_nonneg_left half leading.le
      linarith
  · rw [le_roundingFactor_mul_iff]
    have value : (format.units format.leadingBit : ℚ) ≤ format.units code :=
      units_cast_le (nearest.leadingBit_le normal)
    rw [units_leadingBit] at value
    have step := leadingBit_mul_step_le value (le_refl _)
    have low := nearest.below
    rw [units_succ_cast] at low
    have half : 2 * (exact - format.units code) ≤ 2 ^ format.shift code := by linarith
    have scaled := mul_le_mul_of_nonneg_left half leading.le
    linarith

theorem Nearest.le_succ (nearest : format.Nearest exact code)
    (nearestOther : format.Nearest other otherCode)
    (close : other ≤ format.roundingFactor * exact) : otherCode ≤ code + 1 := by
  by_contra far
  rw [not_le] at far
  obtain ⟨previous, rfl⟩ := Nat.exists_eq_add_one_of_ne_zero (Nat.ne_zero_of_lt far)
  have low := nearest.below
  have high := nearestOther.above previous rfl
  have first : (format.units (code + 1) : ℚ) ≤ format.units previous :=
    units_cast_le (by omega)
  have second : (format.units (code + 1 + 1) : ℚ) ≤ format.units (previous + 1) :=
    units_cast_le (by omega)
  have step := format.units_succ_cast code
  have nextStep := format.units_succ_cast (code + 1)
  have widening : (2 : ℚ) ^ format.shift code ≤ 2 ^ format.shift (code + 1) :=
    pow_le_pow_right₀ one_le_two (format.shift_mono (Nat.le_succ code))
  have size := format.units_le_step code
  have positive : (0 : ℚ) < 2 ^ format.shift code := by positivity
  rw [le_roundingFactor_mul_iff] at close
  have leading := format.leadingBit_cast_pos
  have apart : 2 ^ format.shift code ≤ other - exact := by linarith
  have scaled := mul_le_mul_of_nonneg_left apart (show 0 ≤ 2 * (format.leadingBit : ℚ) by linarith)
  linarith

end

end Format

namespace Binary32

theorem one_cast : (Format.binary32.one : ℚ) = 2 ^ 149 := by
  rw [Format.one, Nat.shiftLeft_eq, Nat.one_mul, Nat.cast_pow]
  rfl

theorem leadingBit_cast : (Format.binary32.leadingBit : ℚ) = 2 ^ 23 := by
  rw [Format.leadingBit_eq, Nat.cast_pow]
  rfl

theorem roundingFactor_eq : Format.binary32.roundingFactor = 1 + 1 / 2 ^ 24 := by
  rw [Format.roundingFactor, leadingBit_cast]
  norm_num

theorem leadingBit_le_of_normal {exact : ℚ} (normal : 1 / 2 ^ 126 ≤ |exact|) :
    (Format.binary32.leadingBit : ℚ) ≤ |exact| * Format.binary32.one := by
  have scale := one_cast_pos
  have least : (Format.binary32.leadingBit : ℚ) = 1 / 2 ^ 126 * Format.binary32.one := by
    rw [leadingBit_cast, one_cast]
    norm_num
  rw [least]
  exact mul_le_mul_of_nonneg_right normal scale.le

theorem RoundsTo.within {exact : ℚ} {value : Binary32} (rounds : RoundsTo exact value)
    (normal : 1 / 2 ^ 126 ≤ |exact|) (small : |exact| < 2 ^ 127) :
    Within Format.binary32.roundingFactor |value.toRat| |exact| := by
  have scale := one_cast_pos
  have units := (rounds.nearest_magnitude small).within (leadingBit_le_of_normal normal)
  have value_eq : (Format.binary32.units value.magnitude : ℚ) =
      |value.toRat| * Format.binary32.one := by
    rw [abs_toRat, div_mul_cancel₀ _ scale.ne']
    rfl
  rw [value_eq] at units
  constructor
  · have bound := units.left_le
    rw [← mul_assoc] at bound
    exact le_of_mul_le_mul_right bound scale
  · have bound := units.right_le
    rw [← mul_assoc] at bound
    exact le_of_mul_le_mul_right bound scale

end Binary32
end ScoreSheet
