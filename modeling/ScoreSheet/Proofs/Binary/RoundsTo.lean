import ScoreSheet.Binary32
import ScoreSheet.Proofs.Binary.Signed

/-!
What it means that a rational number is rounded to a binary number of 32 bits: no finite
number is closer, on a tie the significand is even, and only what is below zero gets a
sign.  At most one pattern fits, and the conversion of an integer and the division give
it as long as they stay away from infinity.

Rounding treats both signs alike: the opposite of a number is rounded to the opposite of what
the number is rounded to.  Zero is its own opposite and is rounded without a sign, so that it
is left out.
-/

namespace ScoreSheet

namespace Binary32

def toRat (value : Binary32) : ℚ :=
  if value.isNegative then -(value.units / Format.binary32.one)
  else value.units / Format.binary32.one

def significand (value : Binary32) : Nat :=
  Format.binary32.significand value.magnitude

/-- A number rounded to nearest, ties going to the even significand. Only a number below
zero gets a sign, also where it is rounded to zero. -/
structure RoundsTo (exact : ℚ) (value : Binary32) : Prop where
  finite : value.isFinite = true
  sign : value.isNegative = true ↔ exact < 0
  nearest : ∀ other : Binary32, other.isFinite = true →
    |exact - value.toRat| ≤ |exact - other.toRat|
  even : ∀ other : Binary32, other.isFinite = true → other.toRat ≠ value.toRat →
    |exact - other.toRat| = |exact - value.toRat| → value.significand % 2 = 0

section

variable {value other : Binary32} {negative : Bool} {magnitude : Nat}

theorem magnitude_lt (value : Binary32) : value.magnitude < signBit :=
  Nat.mod_lt _ (by decide)

theorem bits_eq (value : Binary32) :
    value.bits.toNat = value.magnitude + if value.isNegative then signBit else 0 := by
  have bounded : value.bits.toNat < 2 * signBit := value.bits.toNat_lt
  unfold isNegative Binary32.magnitude
  by_cases negative : signBit ≤ value.bits.toNat
  · rw [if_pos (by simpa using negative), Nat.mod_eq_sub_mod negative,
      Nat.mod_eq_of_lt (by omega)]
    omega
  · rw [if_neg (by simpa using negative), Nat.mod_eq_of_lt (by omega), Nat.add_zero]

theorem eq_of_bits (same : value.bits = other.bits) : value = other := by
  cases value
  cases other
  exact congrArg mk same

theorem eq_of_parts (signs : value.isNegative = other.isNegative)
    (magnitudes : value.magnitude = other.magnitude) : value = other := by
  apply eq_of_bits
  rw [← UInt32.toNat_inj, bits_eq, bits_eq, signs, magnitudes]

theorem toNat_ofMagnitude (negative : Bool) (bounded : magnitude < signBit) :
    (ofMagnitude negative magnitude).bits.toNat =
      magnitude + if negative then signBit else 0 := by
  have fits : magnitude + (if negative then signBit else 0) < 2 ^ 32 := by
    have size : 2 * signBit = 2 ^ 32 := by decide
    cases negative <;> simp only [Bool.false_eq_true, if_false, if_true] <;> omega
  exact UInt32.toNat_ofNat_of_lt' fits

theorem magnitude_ofMagnitude (negative : Bool) (bounded : magnitude < signBit) :
    (ofMagnitude negative magnitude).magnitude = magnitude := by
  rw [Binary32.magnitude, toNat_ofMagnitude negative bounded]
  cases negative
  · exact Nat.mod_eq_of_lt bounded
  · rw [if_pos rfl, Nat.add_mod_right, Nat.mod_eq_of_lt bounded]

theorem isNegative_ofMagnitude (negative : Bool) (bounded : magnitude < signBit) :
    (ofMagnitude negative magnitude).isNegative = negative := by
  rw [isNegative, toNat_ofMagnitude negative bounded]
  cases negative
  · exact decide_eq_false (by simpa using bounded)
  · exact decide_eq_true (Nat.le_add_left _ _)

theorem isNaN_of_finite (finite : value.isFinite = true) : value.isNaN = false := by
  have below : value.magnitude < Format.binary32.infinity := of_decide_eq_true finite
  exact decide_eq_false (by omega)

theorem isInfinite_of_finite (finite : value.isFinite = true) : value.isInfinite = false := by
  have below : value.magnitude < Format.binary32.infinity := of_decide_eq_true finite
  exact beq_false_of_ne (by omega)

end

/-! ### Numbers of patterns -/

section

variable {value other : Binary32} {exact : ℚ}

theorem one_cast_pos : (0 : ℚ) < Format.binary32.one :=
  Format.binary32.one_cast_pos

theorem abs_toRat (value : Binary32) :
    |value.toRat| = value.units / Format.binary32.one := by
  have positive : (0 : ℚ) ≤ value.units / Format.binary32.one :=
    div_nonneg (Nat.cast_nonneg _) one_cast_pos.le
  unfold toRat
  split
  · rw [abs_neg, abs_of_nonneg positive]
  · exact abs_of_nonneg positive

theorem eq_of_toRat (signs : value.isNegative = other.isNegative)
    (numbers : value.toRat = other.toRat) : value = other := by
  apply eq_of_parts signs
  have sizes := congrArg abs numbers
  rw [abs_toRat, abs_toRat, div_left_inj' one_cast_pos.ne', Nat.cast_inj] at sizes
  exact Format.binary32.units_strictMono.injective sizes

theorem toRat_nonneg (unsigned : value.isNegative = false) : 0 ≤ value.toRat := by
  have size := abs_toRat value
  rw [toRat, unsigned] at size ⊢
  exact size ▸ abs_nonneg _

theorem toRat_nonpos (signed : value.isNegative = true) : value.toRat ≤ 0 := by
  have size := abs_nonneg value.toRat
  rw [abs_toRat] at size
  rw [toRat, if_pos signed]
  exact neg_nonpos.mpr size

theorem distance_eq (sign : value.isNegative = true ↔ exact < 0) :
    |exact - value.toRat| = |(|exact| - |value.toRat|)| := by
  by_cases below : exact < 0
  · rw [abs_of_neg below, abs_of_nonpos (toRat_nonpos (sign.mpr below)), ← abs_neg]
    congr 1
    ring
  · have unsigned : value.isNegative = false := by
      rwa [← Bool.not_eq_true, sign]
    rw [abs_of_nonneg (not_lt.mp below), abs_of_nonneg (toRat_nonneg unsigned)]

theorem significand_mod_two (value : Binary32) :
    value.significand % 2 = value.magnitude % 2 :=
  Format.binary32.significand_mod_two (by decide) value.magnitude

theorem toRat_eq_signed (value : Binary32) :
    value.toRat = Format.binary32.signed value.isNegative value.magnitude := rfl

theorem isFinite_iff (value : Binary32) :
    value.isFinite = true ↔ value.magnitude < Format.binary32.infinity :=
  decide_eq_true_iff

theorem withSign_abs_of_sign (sign : value.isNegative = true ↔ exact < 0) :
    withSign value.isNegative |exact| = exact := by
  cases negative : value.isNegative with
  | true =>
      rw [negative] at sign
      change -|exact| = exact
      rw [abs_of_neg (sign.mp rfl), neg_neg]
  | false =>
      rw [negative] at sign
      exact abs_of_nonneg (not_lt.mp fun below => Bool.false_ne_true (sign.mpr below))

theorem roundsTo_of_nearest (finite : value.isFinite = true)
    (sign : value.isNegative = true ↔ exact < 0)
    (nearest : Format.binary32.Nearest (|exact| * Format.binary32.one) value.magnitude) :
    RoundsTo exact value := by
  have rounds := Format.isNearest_of_nearest (by decide) value.isNegative (abs_nonneg exact)
    (value.isFinite_iff.mp finite) nearest
  rw [withSign_abs_of_sign sign] at rounds
  exact {
    finite := finite
    sign := sign
    nearest := fun other otherFinite => rounds.nearest _ _ (other.isFinite_iff.mp otherFinite)
    even := fun other otherFinite => rounds.even _ _ (other.isFinite_iff.mp otherFinite) }

end

section

variable {value other : Binary32} {exact : ℚ}

theorem abs_toRat_lt (ordered : value.magnitude < other.magnitude) :
    |value.toRat| < |other.toRat| := by
  rw [abs_toRat, abs_toRat]
  exact div_lt_div_of_pos_right (Format.units_cast_lt ordered) one_cast_pos

theorem abs_sub_lt_of_between {number low middle high : ℚ} (lowMiddle : low < middle)
    (middleHigh : middle < high) (tie : |number - low| = |number - high|) :
    |number - middle| < |number - low| := by
  rcases abs_eq_abs.mp tie with same | mirrored
  · linarith
  · rw [abs_of_nonneg (show 0 ≤ number - low by linarith), abs_lt]
    constructor <;> linarith

theorem RoundsTo.magnitude_le (rounds : RoundsTo exact value)
    (otherRounds : RoundsTo exact other) : other.magnitude ≤ value.magnitude := by
  by_contra ordered
  rw [not_le] at ordered
  have sizes := abs_toRat_lt ordered
  have tie := le_antisymm (rounds.nearest other otherRounds.finite)
    (otherRounds.nearest value rounds.finite)
  have different : other.toRat ≠ value.toRat := by
    intro same
    rw [same] at sizes
    exact lt_irrefl _ sizes
  have even := rounds.even other otherRounds.finite different tie.symm
  have otherEven := otherRounds.even value rounds.finite different.symm tie
  rw [significand_mod_two] at even otherEven
  -- The pattern after the smaller one is not the larger one, and it would be closer.
  have finite : other.magnitude < Format.binary32.infinity := of_decide_eq_true otherRounds.finite
  have bounded := other.magnitude_lt
  have middleMagnitude : (ofMagnitude value.isNegative (value.magnitude + 1)).magnitude =
      value.magnitude + 1 := magnitude_ofMagnitude _ (by omega)
  have middleSign : (ofMagnitude value.isNegative (value.magnitude + 1)).isNegative = true ↔
      exact < 0 := by
    rw [isNegative_ofMagnitude _ (by omega)]
    exact rounds.sign
  have middleFinite : (ofMagnitude value.isNegative (value.magnitude + 1)).isFinite = true := by
    rw [isFinite, middleMagnitude]
    exact decide_eq_true (by omega)
  have closest := rounds.nearest _ middleFinite
  rw [distance_eq rounds.sign, distance_eq otherRounds.sign] at tie
  rw [distance_eq rounds.sign, distance_eq middleSign] at closest
  exact absurd (abs_sub_lt_of_between (abs_toRat_lt (by omega)) (abs_toRat_lt (by omega)) tie)
    (not_lt.mpr closest)

theorem RoundsTo.unique (rounds : RoundsTo exact value) (otherRounds : RoundsTo exact other) :
    value = other := by
  have signs : value.isNegative = other.isNegative :=
    Bool.eq_iff_iff.mpr (rounds.sign.trans otherRounds.sign.symm)
  exact eq_of_parts signs
    (Nat.le_antisymm (otherRounds.magnitude_le rounds) (rounds.magnitude_le otherRounds))

/-- Rounding does not pass a finite number. -/
theorem RoundsTo.toRat_le (rounds : RoundsTo exact value) (finite : other.isFinite = true)
    (below : exact ≤ other.toRat) : value.toRat ≤ other.toRat := by
  have closest := rounds.nearest other finite
  rw [abs_of_nonpos (show exact - other.toRat ≤ 0 by linarith)] at closest
  have off := neg_abs_le (exact - value.toRat)
  linarith

theorem RoundsTo.le_toRat (rounds : RoundsTo exact value) (finite : other.isFinite = true)
    (above : other.toRat ≤ exact) : other.toRat ≤ value.toRat := by
  have closest := rounds.nearest other finite
  rw [abs_of_nonneg (show 0 ≤ exact - other.toRat by linarith)] at closest
  have off := le_abs_self (exact - value.toRat)
  linarith

end

/-! ### Operations that round -/

section

variable {exact : ℚ} {negative : Bool} {numerator denominator : Nat}

theorem units_infinity :
    (Format.binary32.units Format.binary32.infinity : ℚ) = 2 ^ 128 * Format.binary32.one := by
  have units : Format.binary32.units Format.binary32.infinity =
      2 ^ 128 * Format.binary32.one := by
    decide +kernel
  exact_mod_cast units

theorem lt_infinity_of_nearest {code : Nat}
    (nearest : Format.binary32.Nearest (|exact| * Format.binary32.one) code)
    (small : |exact| < 2 ^ 127) : code < Format.binary32.infinity := by
  have scale := one_cast_pos
  have bound := nearest.units_le (mul_nonneg (abs_nonneg exact) scale.le)
  have below : (Format.binary32.units code : ℚ) <
      Format.binary32.units Format.binary32.infinity := by
    rw [units_infinity]
    have scaled := mul_lt_mul_of_pos_right small scale
    linarith
  exact Format.binary32.units_strictMono.lt_iff_lt.mp (by exact_mod_cast below)

theorem nearest_ofRatio (negative : Bool) (positive : 0 < denominator)
    (size : |exact| = numerator / denominator) (small : |exact| < 2 ^ 127) :
    (ofRatio negative numerator denominator).isFinite = true ∧
      (ofRatio negative numerator denominator).isNegative = negative ∧
      Format.binary32.Nearest (|exact| * Format.binary32.one)
        (ofRatio negative numerator denominator).magnitude := by
  have nearest : Format.binary32.Nearest (numerator * Format.binary32.one / denominator)
      (Format.binary32.nearestCode numerator denominator) :=
    Format.nearest_nearestCode (by decide) positive
  rw [mul_div_right_comm, ← size] at nearest
  have finite := lt_infinity_of_nearest nearest small
  have bounded : Format.binary32.infinity < signBit := by decide
  rw [isFinite, ofRatio, Format.round_eq_min, Nat.min_eq_left finite.le,
    magnitude_ofMagnitude _ (by omega), isNegative_ofMagnitude _ (by omega)]
  exact ⟨decide_eq_true finite, rfl, nearest⟩

theorem roundsTo_ofRatio (positive : 0 < denominator)
    (size : |exact| = numerator / denominator) (sign : negative = true ↔ exact < 0)
    (small : |exact| < 2 ^ 127) : RoundsTo exact (ofRatio negative numerator denominator) := by
  obtain ⟨finite, signed, nearest⟩ := nearest_ofRatio negative positive size small
  exact roundsTo_of_nearest finite (by rwa [signed]) nearest

theorem exists_roundsTo (small : |exact| < 2 ^ 127) : ∃ value, RoundsTo exact value :=
  ⟨_, roundsTo_ofRatio exact.den_pos (abs_eq_num_div_den exact) decide_eq_true_iff small⟩

theorem RoundsTo.nearest_magnitude {value : Binary32} (rounds : RoundsTo exact value)
    (small : |exact| < 2 ^ 127) :
    Format.binary32.Nearest (|exact| * Format.binary32.one) value.magnitude := by
  have size := abs_eq_num_div_den exact
  obtain ⟨_, _, nearest⟩ := nearest_ofRatio (decide (exact < 0)) exact.den_pos size small
  rwa [rounds.unique (roundsTo_ofRatio exact.den_pos size decide_eq_true_iff small)]

theorem roundsTo_ofInt {integer : Int} (small : |(integer : ℚ)| < 2 ^ 127) :
    RoundsTo integer (ofInt integer) := by
  apply roundsTo_ofRatio Nat.one_pos _ _ small
  · rw [Nat.cast_natAbs, Nat.cast_one, div_one, Int.cast_abs]
  · rw [decide_eq_true_iff, Int.cast_lt_zero]

variable {dividend divisor : Binary32}

theorem div_eq_ofRatio (finite : dividend.isFinite = true)
    (divisorFinite : divisor.isFinite = true) (nonzero : divisor.units ≠ 0) :
    dividend / divisor =
      ofRatio (dividend.isNegative != divisor.isNegative) dividend.units divisor.units := by
  change div dividend divisor = _
  simp [div, isNaN_of_finite finite, isInfinite_of_finite finite, isNaN_of_finite divisorFinite,
    isInfinite_of_finite divisorFinite, nonzero]

theorem roundsTo_div (finite : dividend.isFinite = true)
    (divisorFinite : divisor.isFinite = true) (positive : 0 < divisor.toRat)
    (signed : dividend.isNegative = true → dividend.toRat ≠ 0)
    (small : |dividend.toRat / divisor.toRat| < 2 ^ 127) :
    RoundsTo (dividend.toRat / divisor.toRat) (dividend / divisor) := by
  have divisorSign : divisor.isNegative = false := by
    rw [← Bool.not_eq_true]
    exact fun negative => absurd (toRat_nonpos negative) (not_le.mpr positive)
  have divisorSize := abs_toRat divisor
  have scale := one_cast_pos
  have nonzero : 0 < divisor.units := by
    rw [abs_of_pos positive] at divisorSize
    have units : (0 : ℚ) < divisor.units := by
      rw [divisorSize] at positive
      exact (div_pos_iff_of_pos_right scale).mp positive
    exact_mod_cast units
  rw [div_eq_ofRatio finite divisorFinite nonzero.ne', divisorSign, Bool.bne_false]
  apply roundsTo_ofRatio nonzero _ _ small
  · rw [abs_div, abs_toRat, abs_toRat, div_div_div_cancel_right₀ scale.ne']
  · rw [div_lt_iff₀ positive, zero_mul]
    constructor
    · intro negative
      exact lt_of_le_of_ne (toRat_nonpos negative) (signed negative)
    · intro below
      rw [← Bool.not_eq_false]
      exact fun unsigned => absurd (toRat_nonneg unsigned) (not_le.mpr below)

end

def flipSign (value : Binary32) : Binary32 :=
  ⟨value.bits ^^^ 0x80000000⟩

theorem toNat_flipSign (value : Binary32) :
    value.flipSign.bits.toNat = value.bits.toNat ^^^ 2 ^ 31 :=
  UInt32.toNat_xor value.bits 0x80000000

theorem isNegative_eq_testBit (value : Binary32) :
    value.isNegative = value.bits.toNat.testBit 31 := by
  have bounded := value.bits.toNat_lt
  have size : signBit = 2 ^ 31 := rfl
  rw [isNegative, size, Nat.testBit_eq_decide_div_mod_eq, decide_eq_decide]
  omega

theorem isNegative_flipSign (value : Binary32) :
    value.flipSign.isNegative = !value.isNegative := by
  rw [isNegative_eq_testBit, isNegative_eq_testBit, toNat_flipSign, Nat.testBit_xor,
    Nat.testBit_two_pow_self, Bool.xor_true]

theorem magnitude_flipSign (value : Binary32) : value.flipSign.magnitude = value.magnitude := by
  have size : signBit = 2 ^ 31 := rfl
  rw [magnitude, magnitude, toNat_flipSign, size, Nat.xor_mod_two_pow, Nat.mod_self,
    Nat.xor_zero]

theorem isFinite_flipSign (value : Binary32) : value.flipSign.isFinite = value.isFinite := by
  rw [isFinite, isFinite, magnitude_flipSign]

theorem significand_flipSign (value : Binary32) :
    value.flipSign.significand = value.significand := by
  rw [significand, significand, magnitude_flipSign]

theorem toRat_flipSign (value : Binary32) : value.flipSign.toRat = -value.toRat := by
  rw [toRat, toRat, isNegative_flipSign, units, units, magnitude_flipSign]
  cases value.isNegative with
  | false => rfl
  | true => exact (neg_neg _).symm

private theorem abs_neg_sub (number other : ℚ) : |-number - other| = |number - -other| := by
  rw [← abs_neg]
  congr 1
  ring

theorem RoundsTo.neg {exact : ℚ} {value : Binary32} (rounds : RoundsTo exact value)
    (nonzero : exact ≠ 0) : RoundsTo (-exact) value.flipSign where
  finite := by
    rw [isFinite_flipSign]
    exact rounds.finite
  sign := by
    rw [isNegative_flipSign, Bool.not_eq_true', ← Bool.not_eq_true, rounds.sign, neg_lt_zero,
      not_lt]
    exact ⟨fun above => lt_of_le_of_ne above nonzero.symm, le_of_lt⟩
  nearest other finite := by
    have closest := rounds.nearest other.flipSign (by rwa [isFinite_flipSign])
    rwa [abs_neg_sub, abs_neg_sub, toRat_flipSign, neg_neg, ← toRat_flipSign]
  even other finite different tie := by
    rw [significand_flipSign]
    apply rounds.even other.flipSign (by rwa [isFinite_flipSign])
    · intro same
      apply different
      rw [toRat_flipSign, ← same, toRat_flipSign, neg_neg]
    · rw [abs_neg_sub, abs_neg_sub, toRat_flipSign, neg_neg] at tie
      rwa [toRat_flipSign]

end Binary32

end ScoreSheet
