import Mathlib.Algebra.Ring.Nat
import Mathlib.Order.Monotone.Basic
import ScoreSheet.Binary.Format

/-!
The codes of a binary format in the order of their values.  A code is put together from
how far its significand is shifted and the significand itself, and the next code stands
for one more step of that size.  So a significand may grow to the next power of two and
still has its code, which is how a carry reaches the exponent field.
-/

namespace ScoreSheet
namespace Format

variable (format : Format)

theorem leadingBit_eq : format.leadingBit = 2 ^ format.fractionBits := by
  rw [leadingBit, Nat.shiftLeft_eq, Nat.one_mul]

theorem leadingBit_pos : 0 < format.leadingBit := by
  rw [leadingBit_eq]
  exact Nat.two_pow_pos _

theorem leadingBit_even (wide : 0 < format.fractionBits) : format.leadingBit % 2 = 0 := by
  obtain ⟨bits, more⟩ := Nat.exists_eq_add_one_of_ne_zero wide.ne'
  rw [leadingBit_eq, more, Nat.pow_succ, Nat.mul_mod_left]

theorem mul_leadingBit_even (wide : 0 < format.fractionBits) (steps : Nat) :
    steps * format.leadingBit % 2 = 0 := by
  rw [Nat.mul_mod, format.leadingBit_even wide, Nat.mul_zero, Nat.zero_mod]

theorem one_pos : 0 < format.one := by
  rw [one, Nat.shiftLeft_eq, Nat.one_mul]
  exact Nat.two_pow_pos _

theorem units_eq (code : Nat) :
    format.units code = format.significand code * 2 ^ format.shift code :=
  Nat.shiftLeft_eq _ _

theorem significand_lt (code : Nat) : format.significand code < 2 * format.leadingBit := by
  have remainder := Nat.mod_lt code format.leadingBit_pos
  unfold significand
  split <;> omega

theorem shift_eq_zero {code : Nat} (subnormal : code < format.leadingBit) :
    format.shift code = 0 := by
  rw [shift, Nat.div_eq_of_lt subnormal]

theorem leadingBit_le_significand {code : Nat} (shifted : format.shift code ≠ 0) :
    format.leadingBit ≤ format.significand code := by
  have normal : ¬ code < format.leadingBit := fun subnormal =>
    shifted (format.shift_eq_zero subnormal)
  rw [significand, if_neg normal]
  exact Nat.le_add_right _ _

theorem le_shift {steps code : Nat}
    (reached : steps = 0 ∨ steps * format.leadingBit + format.leadingBit ≤ code) :
    steps ≤ format.shift code := by
  rcases reached with rfl | reached
  · exact Nat.zero_le _
  · rw [← Nat.succ_mul] at reached
    exact Nat.le_sub_one_of_lt ((Nat.le_div_iff_mul_le format.leadingBit_pos).mpr reached)

theorem shift_mul_add_significand (code : Nat) :
    format.shift code * format.leadingBit + format.significand code = code := by
  by_cases subnormal : code < format.leadingBit
  · rw [format.shift_eq_zero subnormal, significand, if_pos subnormal, Nat.zero_mul,
      Nat.zero_add]
  · have whole := Nat.div_add_mod' code format.leadingBit
    have positive : 1 ≤ code / format.leadingBit :=
      (Nat.one_le_div_iff format.leadingBit_pos).mpr (Nat.le_of_not_lt subnormal)
    have steps : (code / format.leadingBit - 1) * format.leadingBit + format.leadingBit =
        code / format.leadingBit * format.leadingBit := by
      rw [← Nat.succ_mul, Nat.succ_eq_add_one, Nat.sub_add_cancel positive]
    rw [shift, significand, if_neg subnormal]
    omega

theorem significand_mod_two (wide : 0 < format.fractionBits) (code : Nat) :
    format.significand code % 2 = code % 2 := by
  have parts := format.shift_mul_add_significand code
  have steps := format.mul_leadingBit_even wide (format.shift code)
  omega

theorem units_of_parts {shift fraction : Nat} (inside : fraction < format.leadingBit) :
    format.units (shift * format.leadingBit + (format.leadingBit + fraction)) =
      (format.leadingBit + fraction) * 2 ^ shift := by
  have parts : shift * format.leadingBit + (format.leadingBit + fraction) =
      fraction + format.leadingBit * (shift + 1) := by
    rw [Nat.mul_add, Nat.mul_comm shift]
    omega
  have quotient : (fraction + format.leadingBit * (shift + 1)) / format.leadingBit =
      shift + 1 := by
    rw [Nat.add_mul_div_left _ _ format.leadingBit_pos, Nat.div_eq_of_lt inside, Nat.zero_add]
  have remainder : (fraction + format.leadingBit * (shift + 1)) % format.leadingBit =
      fraction := by
    rw [Nat.add_mul_mod_self_left, Nat.mod_eq_of_lt inside]
  have normal : ¬ fraction + format.leadingBit * (shift + 1) < format.leadingBit := by
    rw [Nat.mul_add]
    omega
  rw [parts, units_eq, significand, if_neg normal, remainder, Format.shift, quotient,
    Nat.add_sub_cancel]

theorem units_of_subnormal {code : Nat} (subnormal : code < format.leadingBit) :
    format.units code = code := by
  rw [units_eq, significand, if_pos subnormal, format.shift_eq_zero subnormal, Nat.pow_zero,
    Nat.mul_one]

/-- The value of a code by its parts. The significand may be the next power of two. -/
theorem units_mul_add {shift significand : Nat}
    (normal : shift = 0 ∨ format.leadingBit ≤ significand)
    (upTo : significand ≤ 2 * format.leadingBit) :
    format.units (shift * format.leadingBit + significand) = significand * 2 ^ shift := by
  by_cases subnormal : significand < format.leadingBit
  · obtain rfl : shift = 0 := by
      rcases normal with zero | full
      · exact zero
      · omega
    rw [Nat.zero_mul, Nat.zero_add, format.units_of_subnormal subnormal, Nat.pow_zero,
      Nat.mul_one]
  · by_cases inside : significand < 2 * format.leadingBit
    · obtain ⟨fraction, rfl⟩ := Nat.exists_eq_add_of_le (Nat.le_of_not_lt subnormal)
      exact format.units_of_parts (by omega)
    · obtain rfl : significand = 2 * format.leadingBit := by omega
      have carried : shift * format.leadingBit + 2 * format.leadingBit =
          (shift + 1) * format.leadingBit + (format.leadingBit + 0) := by
        rw [Nat.add_mul]
        omega
      rw [carried, format.units_of_parts format.leadingBit_pos, Nat.pow_succ', Nat.add_zero,
        ← Nat.mul_assoc, Nat.mul_comm format.leadingBit]

theorem units_succ (code : Nat) :
    format.units (code + 1) = format.units code + 2 ^ format.shift code := by
  have normal : format.shift code = 0 ∨ format.leadingBit ≤ format.significand code + 1 := by
    by_cases shifted : format.shift code = 0
    · exact Or.inl shifted
    · have full := format.leadingBit_le_significand shifted
      exact Or.inr (by omega)
  have upTo := format.significand_lt code
  have next := format.units_mul_add normal (by omega)
  rw [← Nat.add_assoc, shift_mul_add_significand, Nat.add_mul, Nat.one_mul] at next
  rw [next, units_eq]

theorem units_strictMono : StrictMono format.units := by
  apply strictMono_nat_of_lt_succ
  intro code
  rw [units_succ]
  have positive := Nat.two_pow_pos (format.shift code)
  omega

end Format
end ScoreSheet
