import ScoreSheet.Decimal.Text
import ScoreSheet.Proofs.Binary.RoundsTo

/-!
The text with two places against the number it stands for.  The hundredths that are shown
are the nearest ones, so that a number that is off by less than half of one from some
hundredths is shown as these.

The whole number of hundredths that is shown is the nearest one, and the even one of two that
are equally near.  That alone decides how far the shown number is off and that a larger number
is not shown as a smaller one.
-/

namespace ScoreSheet

/-- The exact decimal of a number that two places are enough for. Only a number below zero
has a sign, and the whole part has no digits that it does not need. -/
def IsTwoPlaces (number : ℚ) (text : String) : Prop :=
  ∃ whole places : Nat, places < 100 ∧ |number| = whole + places / 100 ∧
    text = (if number < 0 then "-" else "") ++ toString whole ++ "." ++
      toString (places / 10) ++ toString (places % 10)

section

variable {number : ℚ} {hundredths : Nat}

theorem isTwoPlaces_hundredthsText (size : |number| = hundredths / 100) :
    IsTwoPlaces number ((if number < 0 then "-" else "") ++ hundredthsText hundredths) := by
  refine ⟨hundredths / 100, hundredths % 100, Nat.mod_lt _ (by decide), ?_, ?_⟩
  · have parts : (hundredths : ℚ) = 100 * (hundredths / 100 : Nat) + (hundredths % 100 : Nat) := by
      exact_mod_cast (Nat.div_add_mod hundredths 100).symm
    rw [size]
    linarith
  · simp only [hundredthsText, String.append_assoc]

namespace Binary32

variable {value : Binary32}

theorem abs_hundredths_sub_le (value : Binary32) :
    |(value.hundredths : ℚ) - 100 * (|value.toRat|)| ≤ 1 / 2 := by
  have scale := one_cast_pos
  have positive := Format.binary32.one_pos
  have units : (value.units : ℚ) = |value.toRat| * Format.binary32.one := by
    rw [abs_toRat, div_mul_cancel₀ _ scale.ne']
  have atMost : (2 * value.hundredths * Format.binary32.one : ℚ) ≤
      2 * (value.units * 100) + Format.binary32.one := by
    exact_mod_cast roundQuotient_le_two_mul (value.units * 100) positive
  have atLeast : (2 * (value.units * 100) : ℚ) ≤
      (2 * value.hundredths + 1) * Format.binary32.one := by
    exact_mod_cast two_mul_le_roundQuotient (value.units * 100) positive
  rw [units] at atMost atLeast
  rw [abs_le]
  constructor
  · apply le_of_mul_le_mul_right _ scale
    linarith
  · apply le_of_mul_le_mul_right _ scale
    linarith

theorem hundredths_eq (size : |number| = hundredths / 100)
    (close : |number - value.toRat| < 1 / 200) : value.hundredths = hundredths := by
  have shown := abs_le.mp value.abs_hundredths_sub_le
  have sizes := abs_lt.mp ((abs_abs_sub_abs_le number value.toRat).trans_lt close)
  rw [size] at sizes
  have above : (value.hundredths : ℚ) < hundredths + 1 := by linarith
  have below : (hundredths : ℚ) < value.hundredths + 1 := by linarith
  have aboveNat : value.hundredths < hundredths + 1 := by exact_mod_cast above
  have belowNat : hundredths < value.hundredths + 1 := by exact_mod_cast below
  omega

theorem toHundredthsText_of_finite (finite : value.isFinite = true) :
    value.toHundredthsText =
      (if value.isNegative then "-" else "") ++ hundredthsText value.hundredths := by
  simp only [toHundredthsText, isNaN_of_finite finite, isInfinite_of_finite finite,
    Bool.false_eq_true, if_false]

theorem toHundredthsText_eq (finite : value.isFinite = true)
    (sign : value.isNegative = true ↔ number < 0) (size : |number| = hundredths / 100)
    (close : |number - value.toRat| < 1 / 200) :
    value.toHundredthsText = (if number < 0 then "-" else "") ++ hundredthsText hundredths := by
  rw [toHundredthsText_of_finite finite, hundredths_eq size close]
  simp only [sign]

end Binary32
end

/-- A whole number that none is nearer to the exact number than, and that is even if another one
is as near. -/
structure IsNearestWhole (exact : ℚ) (whole : Nat) : Prop where
  nearest : ∀ other : Int, |exact - whole| ≤ |exact - other|
  even : ∀ other : Int, other ≠ whole → |exact - other| = |exact - whole| → whole % 2 = 0

section

variable {exact other : ℚ} {whole otherWhole : Nat}

theorem one_le_distances (exact : ℚ) {candidate : Int} (different : candidate ≠ whole) :
    1 ≤ |exact - whole| + |exact - candidate| := by
  have apart : (1 : ℚ) ≤ |(candidate : ℚ) - whole| := by
    exact_mod_cast Int.one_le_abs (sub_ne_zero.mpr different)
  have path : (candidate : ℚ) - whole = (exact - whole) - (exact - candidate) := by ring
  rw [path] at apart
  exact apart.trans (abs_sub _ _)

theorem isNearestWhole_of_close (close : |exact - whole| ≤ 1 / 2)
    (tie : |exact - whole| = 1 / 2 → whole % 2 = 0) : IsNearestWhole exact whole where
  nearest candidate := by
    by_cases same : candidate = whole
    · rw [same, Int.cast_natCast]
    · have apart := one_le_distances exact same
      linarith
  even candidate different equal := by
    have apart := one_le_distances exact different
    rw [equal] at apart
    exact tie (le_antisymm close (by linarith))

namespace IsNearestWhole

theorem le_half (nearest : IsNearestWhole exact whole) : |exact - whole| ≤ 1 / 2 := by
  have above := nearest.nearest (whole + 1)
  have below := nearest.nearest (whole - 1)
  push_cast at above below
  rcases abs_cases (exact - whole) with ⟨size, sign⟩ | ⟨size, sign⟩
  · rw [size] at above ⊢
    rcases abs_cases (exact - (whole + 1)) with first | first <;> linarith
  · rw [size] at below ⊢
    rcases abs_cases (exact - (whole - 1)) with first | first <;> linarith

theorem mono (nearest : IsNearestWhole exact whole) (otherNearest : IsNearestWhole other otherWhole)
    (ordered : exact ≤ other) : whole ≤ otherWhole := by
  by_contra crossed
  have next : ((otherWhole + 1 : Nat) : ℚ) ≤ whole := by
    exact_mod_cast not_le.mp crossed
  have close := abs_le.mp nearest.le_half
  have otherClose := abs_le.mp otherNearest.le_half
  push_cast at next
  -- Both numbers would be halfway between two neighbours, and both of these even.
  have half : exact - otherWhole = -(exact - whole) := by linarith
  have otherHalf : other - whole = -(other - otherWhole) := by linarith
  have even : whole % 2 = 0 := by
    apply nearest.even otherWhole (by omega)
    rw [Int.cast_natCast, half, abs_neg]
  have otherEven : otherWhole % 2 = 0 := by
    apply otherNearest.even whole (by omega)
    rw [Int.cast_natCast, otherHalf, abs_neg]
  have neighbours : (whole : ℚ) = otherWhole + 1 := by linarith
  have successor : whole = otherWhole + 1 := by exact_mod_cast neighbours
  omega

theorem eq_zero (nearest : IsNearestWhole 0 whole) : whole = 0 := by
  have none := nearest.nearest 0
  rw [Int.cast_zero, sub_zero, abs_zero, zero_sub, abs_neg, Nat.abs_cast] at none
  exact_mod_cast le_antisymm none (Nat.cast_nonneg whole)

end IsNearestWhole

end

def signedHundredths (negative : Bool) (hundredths : Nat) : ℚ :=
  if negative then -(hundredths / 100) else hundredths / 100

theorem signedHundredths_nonneg (hundredths : Nat) : 0 ≤ signedHundredths false hundredths :=
  div_nonneg (Nat.cast_nonneg hundredths) (by norm_num)

theorem signedHundredths_nonpos (hundredths : Nat) : signedHundredths true hundredths ≤ 0 :=
  neg_nonpos.mpr (div_nonneg (Nat.cast_nonneg hundredths) (by norm_num))

namespace Binary32

theorem isNearestWhole_hundredths (value : Binary32) :
    IsNearestWhole (100 * |value.toRat|) value.hundredths := by
  have close := value.abs_hundredths_sub_le
  rw [abs_sub_comm] at close
  apply isNearestWhole_of_close close
  intro half
  have scale := one_cast_pos
  have units : (value.units : ℚ) = |value.toRat| * Format.binary32.one := by
    rw [abs_toRat, div_mul_cancel₀ _ scale.ne']
  have shown : roundQuotient (value.units * 100) Format.binary32.one = value.hundredths := rfl
  rw [← shown]
  apply roundQuotient_even_of_tie Format.binary32.one_pos
  rw [shown]
  rcases abs_cases (100 * |value.toRat| - value.hundredths) with ⟨size, _⟩ | ⟨size, _⟩
  · left
    have exact : (2 * (value.units * 100) : ℚ) =
        (2 * value.hundredths + 1) * Format.binary32.one := by
      rw [units]
      linear_combination (2 * (Format.binary32.one : ℚ)) * (half - size)
    exact_mod_cast exact
  · right
    have exact : (2 * value.hundredths * Format.binary32.one : ℚ) =
        2 * (value.units * 100) + Format.binary32.one := by
      rw [units]
      linear_combination (2 * (Format.binary32.one : ℚ)) * (half - size)
    exact_mod_cast exact

section

variable {value other : Binary32} {hundredths otherHundredths : Nat}

theorem abs_signedHundredths_sub_le (nearest : IsNearestWhole (100 * |value.toRat|) hundredths) :
    |signedHundredths value.isNegative hundredths - value.toRat| ≤ 1 / 200 := by
  obtain ⟨lower, upper⟩ := abs_le.mp nearest.le_half
  unfold signedHundredths
  cases sign : value.isNegative with
  | false =>
      rw [abs_of_nonneg (toRat_nonneg sign)] at lower upper
      rw [if_neg Bool.false_ne_true, abs_le]
      constructor <;> linarith
  | true =>
      rw [abs_of_nonpos (toRat_nonpos sign)] at lower upper
      rw [if_pos rfl, abs_le]
      constructor <;> linarith

theorem signedHundredths_mono (nearest : IsNearestWhole (100 * |value.toRat|) hundredths)
    (otherNearest : IsNearestWhole (100 * |other.toRat|) otherHundredths)
    (ordered : value.toRat ≤ other.toRat) :
    signedHundredths value.isNegative hundredths ≤
      signedHundredths other.isNegative otherHundredths := by
  cases sign : value.isNegative with
  | true =>
      cases otherSign : other.isNegative with
      | true =>
          rw [abs_of_nonpos (toRat_nonpos sign)] at nearest
          rw [abs_of_nonpos (toRat_nonpos otherSign)] at otherNearest
          have sizes : (otherHundredths : ℚ) ≤ hundredths := by
            exact_mod_cast otherNearest.mono nearest (by linarith)
          change -(hundredths / 100 : ℚ) ≤ -(otherHundredths / 100 : ℚ)
          linarith
      | false => exact (signedHundredths_nonpos _).trans (signedHundredths_nonneg _)
  | false =>
      have above := toRat_nonneg sign
      cases otherSign : other.isNegative with
      | true =>
          have below := toRat_nonpos otherSign
          rw [show value.toRat = 0 by linarith, abs_zero, mul_zero] at nearest
          rw [show other.toRat = 0 by linarith, abs_zero, mul_zero] at otherNearest
          rw [nearest.eq_zero, otherNearest.eq_zero]
          norm_num [signedHundredths]
      | false =>
          rw [abs_of_nonneg above] at nearest
          rw [abs_of_nonneg (toRat_nonneg otherSign)] at otherNearest
          have sizes : (hundredths : ℚ) ≤ otherHundredths := by
            exact_mod_cast nearest.mono otherNearest (by linarith)
          change (hundredths / 100 : ℚ) ≤ (otherHundredths / 100 : ℚ)
          linarith

end

end Binary32

end ScoreSheet
