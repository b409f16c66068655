import ScoreSheet.Proofs.Binary.Precision
import ScoreSheet.Proofs.Binary.RoundsTo

/-!
Where rounding changes nothing.  A number with few enough significant digits is left as it
is, and multiplying by a power of two before rounding is the same as multiplying after it:
the significand stays and only the exponent field grows, at the boundaries between binades
as well, as long as the number is not subnormal.  A number that is left as it is bounds what
is rounded as it bounds the exact number.
-/

namespace ScoreSheet
namespace Format

variable {format : Format}

theorem exists_units_eq (format : Format) (shift : Nat) {significand : Nat}
    (bounded : significand ≤ 2 * format.leadingBit) :
    ∃ code, format.units code = significand * 2 ^ shift := by
  induction shift generalizing significand with
  | zero =>
      exact ⟨0 * format.leadingBit + significand, format.units_mul_add (Or.inl rfl) bounded⟩
  | succ shift ih =>
      by_cases full : format.leadingBit ≤ significand
      · exact ⟨_, format.units_mul_add (Or.inr full) bounded⟩
      · have room : 2 * significand ≤ 2 * format.leadingBit := by omega
        obtain ⟨code, value⟩ := ih room
        refine ⟨code, ?_⟩
        rw [value, Nat.pow_succ']
        ring

theorem units_add_leadingBit {code : Nat} (normal : format.leadingBit ≤ code) :
    format.units (code + format.leadingBit) = 2 * format.units code := by
  have parts := format.shift_mul_add_significand code
  have full : format.leadingBit ≤ format.significand code := by
    rw [significand, if_neg (Nat.not_lt.mpr normal)]
    exact Nat.le_add_right _ _
  have next : code + format.leadingBit =
      (format.shift code + 1) * format.leadingBit + format.significand code := by
    rw [Nat.add_mul, Nat.one_mul]
    omega
  rw [next, format.units_mul_add (Or.inr full) (format.significand_lt code).le, units_eq,
    Nat.pow_succ']
  ring

theorem units_add_mul_leadingBit {code : Nat} (normal : format.leadingBit ≤ code)
    (steps : Nat) :
    format.units (code + steps * format.leadingBit) = 2 ^ steps * format.units code := by
  induction steps with
  | zero => rw [Nat.zero_mul, Nat.add_zero, Nat.pow_zero, Nat.one_mul]
  | succ steps ih =>
      rw [Nat.add_mul, Nat.one_mul, ← Nat.add_assoc, units_add_leadingBit (by omega), ih,
        Nat.pow_succ', Nat.mul_assoc]

variable {exact : ℚ} {code : Nat}

theorem Nearest.double (wide : 0 < format.fractionBits) (nearest : format.Nearest exact code)
    (normal : (format.leadingBit : ℚ) ≤ exact) :
    format.Nearest (2 * exact) (code + format.leadingBit) := by
  have full := nearest.leadingBit_le normal
  have even := format.leadingBit_even wide
  have value : (format.units (code + format.leadingBit) : ℚ) = 2 * format.units code := by
    exact_mod_cast units_add_leadingBit full
  have next : (format.units (code + format.leadingBit + 1) : ℚ) =
      2 * format.units (code + 1) := by
    rw [Nat.add_right_comm]
    exact_mod_cast units_add_leadingBit (Nat.le_succ_of_le full)
  have before : ∀ previous, previous + 1 = code + format.leadingBit →
      (format.units previous : ℚ) + format.units (code + format.leadingBit) ≤
          2 * (2 * exact) ∧
        ((format.units previous : ℚ) + format.units (code + format.leadingBit) =
          2 * (2 * exact) → code % 2 = 0) := by
    intro previous precedes
    by_cases started : format.leadingBit = code
    · -- The doubled code begins a binade, and the doubled number is not below it.
      have apart : (format.units previous : ℚ) < format.units (code + format.leadingBit) :=
        units_cast_lt (by omega)
      have size : (format.units code : ℚ) = format.leadingBit := by
        rw [← started, units_leadingBit]
      exact ⟨by linarith, fun tie => by linarith⟩
    · obtain ⟨earlier, rfl⟩ := Nat.exists_eq_add_of_le' (show format.leadingBit ≤ previous by omega)
      have follows : earlier + 1 = code := by omega
      have earlierValue : (format.units (earlier + format.leadingBit) : ℚ) =
          2 * format.units earlier := by
        exact_mod_cast units_add_leadingBit (show format.leadingBit ≤ earlier by omega)
      have above := nearest.above earlier follows
      exact ⟨by linarith, fun tie => nearest.even_above earlier follows (by linarith)⟩
  exact {
    below := by
      have low := nearest.below
      linarith
    above := fun previous precedes => (before previous precedes).1
    even_below := fun tie => by
      have same := nearest.even_below (by linarith)
      omega
    even_above := fun previous precedes tie => by
      have same := (before previous precedes).2 tie
      omega }

theorem Nearest.scale (wide : 0 < format.fractionBits) (nearest : format.Nearest exact code)
    (normal : (format.leadingBit : ℚ) ≤ exact) (steps : Nat) :
    format.Nearest (2 ^ steps * exact) (code + steps * format.leadingBit) := by
  induction steps with
  | zero => rwa [pow_zero, one_mul, Nat.zero_mul, Nat.add_zero]
  | succ steps ih =>
      have larger : exact ≤ 2 ^ steps * exact :=
        le_mul_of_one_le_left (format.leadingBit_cast_pos.le.trans normal) (one_le_pow₀ one_le_two)
      have doubled := ih.double wide (normal.trans larger)
      rwa [← mul_assoc, ← pow_succ', Nat.add_assoc, ← Nat.succ_mul] at doubled

end Format

/-! ### Binary numbers of 32 bits -/

namespace Binary32

/-- Some finite pattern stands for the number. -/
def Representable (number : ℚ) : Prop :=
  ∃ value : Binary32, value.isFinite = true ∧ value.toRat = number

section

variable {exact : ℚ} {value other : Binary32}

theorem RoundsTo.toRat_eq (rounds : RoundsTo exact value) (representable : Representable exact) :
    value.toRat = exact := by
  obtain ⟨same, finite, rfl⟩ := representable
  have closest := rounds.nearest same finite
  rw [sub_self, abs_zero] at closest
  exact (sub_eq_zero.mp (abs_eq_zero.mp (le_antisymm closest (abs_nonneg _)))).symm

theorem toRat_ofMagnitude (negative : Bool) {magnitude : Nat} (bounded : magnitude < signBit) :
    (ofMagnitude negative magnitude).toRat =
      (if negative then -1 else 1) *
        (Format.binary32.units magnitude / Format.binary32.one) := by
  rw [toRat, units, magnitude_ofMagnitude negative bounded,
    isNegative_ofMagnitude negative bounded]
  split
  · rw [neg_one_mul]
  · rw [one_mul]

theorem representable_div_two_pow {integer : Int} (small : integer.natAbs ≤ 2 ^ 24)
    {exponent : Nat} (bounded : exponent ≤ 149) : Representable (integer / 2 ^ exponent) := by
  have leading : Format.binary32.leadingBit = 2 ^ 23 := Format.leadingBit_eq _
  have room : integer.natAbs ≤ 2 * Format.binary32.leadingBit := by omega
  obtain ⟨code, value⟩ := Format.binary32.exists_units_eq (149 - exponent) room
  have size : (Format.binary32.units code : ℚ) / Format.binary32.one =
      integer.natAbs / 2 ^ exponent := by
    have split : (2 : ℚ) ^ 149 = 2 ^ (149 - exponent) * 2 ^ exponent := by
      rw [← pow_add, Nat.sub_add_cancel bounded]
    rw [value, one_cast, Nat.cast_mul, Nat.cast_pow, Nat.cast_ofNat, split,
      mul_comm ((2 : ℚ) ^ (149 - exponent)), mul_div_mul_right _ _ (by positivity)]
  have finite : code < Format.binary32.infinity := by
    apply Format.binary32.units_strictMono.lt_iff_lt.mp
    have most : Format.binary32.units code ≤ 2 ^ 24 * 2 ^ 149 := by
      rw [value]
      exact Nat.mul_le_mul small (Nat.pow_le_pow_right Nat.two_pos (Nat.sub_le _ _))
    have limit : 2 ^ 24 * 2 ^ 149 < Format.binary32.units Format.binary32.infinity := by
      decide +kernel
    exact most.trans_lt limit
  have bound : code < signBit := finite.trans (by decide)
  refine ⟨ofMagnitude (decide (integer < 0)) code, ?_, ?_⟩
  · rw [isFinite, magnitude_ofMagnitude _ bound]
    exact decide_eq_true finite
  · rw [toRat_ofMagnitude _ bound, size, ← mul_div_assoc]
    congr 1
    by_cases below : integer < 0
    · rw [if_pos (decide_eq_true below), Nat.cast_natAbs, abs_of_neg below, Int.cast_neg]
      ring
    · rw [if_neg (by simpa using below), Nat.cast_natAbs, abs_of_nonneg (by omega), one_mul]

theorem toRat_zero (negative : Bool) : (zero negative).toRat = 0 := by
  rw [zero, toRat_ofMagnitude negative (by decide), Format.units_zero, Nat.cast_zero, zero_div,
    mul_zero]

theorem representable_zero : Representable 0 :=
  ⟨zero false, by decide, toRat_zero false⟩

theorem Representable.neg {number : ℚ} (representable : Representable number) :
    Representable (-number) := by
  obtain ⟨value, finite, rfl⟩ := representable
  exact ⟨value.flipSign, by rwa [isFinite_flipSign], toRat_flipSign value⟩

theorem representable_intCast {integer : Int} (small : integer.natAbs ≤ 2 ^ 24) :
    Representable integer := by
  have whole := representable_div_two_pow small (Nat.zero_le 149)
  rwa [pow_zero, div_one] at whole

theorem RoundsTo.toRat_scale {steps : Nat} (rounds : RoundsTo exact value)
    (scaledRounds : RoundsTo (2 ^ steps * exact) other) (normal : 1 / 2 ^ 126 ≤ |exact|)
    (small : |2 ^ steps * exact| < 2 ^ 127) : other.toRat = 2 ^ steps * value.toRat := by
  have power : (0 : ℚ) < 2 ^ steps := by positivity
  have size : |2 ^ steps * exact| = 2 ^ steps * |exact| := by
    rw [abs_mul, abs_of_pos power]
  have smaller : |exact| ≤ 2 ^ steps * |exact| :=
    le_mul_of_one_le_left (abs_nonneg exact) (one_le_pow₀ one_le_two)
  rw [size] at small
  have nearest := rounds.nearest_magnitude (smaller.trans_lt small)
  have full := nearest.leadingBit_le (leadingBit_le_of_normal normal)
  have scaled := nearest.scale (by decide) (leadingBit_le_of_normal normal) steps
  rw [← mul_assoc, ← size] at scaled
  have finite := lt_infinity_of_nearest scaled (by rwa [size])
  have bounded := finite.trans (show Format.binary32.infinity < signBit by decide)
  have moved : RoundsTo (2 ^ steps * exact) (ofMagnitude value.isNegative
      (value.magnitude + steps * Format.binary32.leadingBit)) := by
    apply roundsTo_of_nearest
    · rw [isFinite, magnitude_ofMagnitude _ bounded]
      exact decide_eq_true finite
    · rw [isNegative_ofMagnitude _ bounded, rounds.sign]
      exact ⟨mul_neg_of_pos_of_neg power, fun below => neg_of_mul_neg_right below power.le⟩
    · rwa [magnitude_ofMagnitude _ bounded]
  rw [scaledRounds.unique moved, toRat_ofMagnitude _ bounded,
    Format.units_add_mul_leadingBit full, toRat]
  push_cast
  split
  · unfold units
    ring
  · unfold units
    ring

theorem representable_one : Representable 1 := by
  exact_mod_cast representable_intCast (show (1 : Int).natAbs ≤ 2 ^ 24 by decide)

theorem representable_two_pow {steps : Nat} (small : steps < 127) :
    Representable (2 ^ steps) := by
  have power : |(2 : ℚ) ^ steps * 1| < 2 ^ 127 := by
    rw [mul_one, abs_of_pos (by positivity)]
    exact pow_lt_pow_right₀ one_lt_two small
  obtain ⟨single, rounds⟩ := exists_roundsTo (show |(1 : ℚ)| < 2 ^ 127 by norm_num)
  obtain ⟨scaled, scaledRounds⟩ := exists_roundsTo power
  have value := rounds.toRat_scale scaledRounds (by norm_num) power
  rw [rounds.toRat_eq representable_one, mul_one] at value
  exact ⟨scaled, scaledRounds.finite, value⟩

variable {bound : ℚ}

theorem RoundsTo.toRat_le_bound (rounds : RoundsTo exact value)
    (representable : Representable bound) (below : exact ≤ bound) : value.toRat ≤ bound := by
  obtain ⟨other, finite, rfl⟩ := representable
  exact rounds.toRat_le finite below

theorem RoundsTo.bound_le_toRat (rounds : RoundsTo exact value)
    (representable : Representable bound) (above : bound ≤ exact) : bound ≤ value.toRat := by
  obtain ⟨other, finite, rfl⟩ := representable
  exact rounds.le_toRat finite above

theorem RoundsTo.abs_toRat_le (rounds : RoundsTo exact value) (representable : Representable bound)
    (within : |exact| ≤ bound) : |value.toRat| ≤ bound := by
  obtain ⟨lower, upper⟩ := abs_le.mp within
  exact abs_le.mpr ⟨rounds.bound_le_toRat representable.neg lower,
    rounds.toRat_le_bound representable upper⟩

end

end Binary32
end ScoreSheet
