/-!
Rounding of a quotient of natural numbers to the nearest whole number, and binary
number formats.  Every inexact step of this library (the two number formats and the
two-place text) goes through this one function.

Binary number formats with a fixed number of fraction bits.

The nonnegative values of a format are listed by their *codes*: the bit pattern
without its sign, read as a natural number.  Codes are ordered as their values
are.  A code's value is counted in units of the least positive value of the
format, so every finite value is a natural number of units and rounding is
arithmetic on natural numbers.
-/

namespace ScoreSheet

/-- The whole number nearest to `numerator / denominator`; halfway between two
of them, the even one. -/
def roundQuotient (numerator denominator : Nat) : Nat :=
  let quotient := numerator / denominator
  let remainder := numerator % denominator
  if 2 * remainder < denominator then quotient
  else if denominator < 2 * remainder then quotient + 1
  else quotient + quotient % 2

section

variable {numerator denominator : Nat}

theorem roundQuotient_cases (numerator : Nat) (positive : 0 < denominator) :
    ∃ quotient remainder, numerator = quotient * denominator + remainder ∧
      remainder < denominator ∧
        (2 * remainder < denominator ∧ roundQuotient numerator denominator = quotient ∨
          denominator < 2 * remainder ∧
            roundQuotient numerator denominator = quotient + 1 ∨
          2 * remainder = denominator ∧
            roundQuotient numerator denominator = quotient + quotient % 2) := by
  refine ⟨numerator / denominator, numerator % denominator,
    (Nat.div_add_mod' numerator denominator).symm, Nat.mod_lt numerator positive, ?_⟩
  unfold roundQuotient
  by_cases below : 2 * (numerator % denominator) < denominator
  · exact Or.inl ⟨below, if_pos below⟩
  · by_cases above : denominator < 2 * (numerator % denominator)
    · exact Or.inr (Or.inl ⟨above, by simp only [if_neg below, if_pos above]⟩)
    · exact Or.inr (Or.inr ⟨by omega, by simp only [if_neg below, if_neg above]⟩)

theorem two_mul_le_roundQuotient (numerator : Nat) (positive : 0 < denominator) :
    2 * numerator ≤ (2 * roundQuotient numerator denominator + 1) * denominator := by
  obtain ⟨quotient, remainder, whole, less, nearest⟩ := roundQuotient_cases numerator positive
  rw [Nat.add_mul, Nat.mul_assoc, Nat.one_mul]
  rcases nearest with ⟨below, rounded⟩ | ⟨above, rounded⟩ | ⟨tie, rounded⟩ <;>
    rw [rounded]
  · omega
  · rw [Nat.add_mul, Nat.one_mul]
    omega
  · rw [Nat.add_mul]
    omega

theorem roundQuotient_le_two_mul (numerator : Nat) (positive : 0 < denominator) :
    2 * roundQuotient numerator denominator * denominator ≤ 2 * numerator + denominator := by
  obtain ⟨quotient, remainder, whole, less, nearest⟩ := roundQuotient_cases numerator positive
  rw [Nat.mul_assoc]
  rcases nearest with ⟨below, rounded⟩ | ⟨above, rounded⟩ | ⟨tie, rounded⟩ <;>
    rw [rounded]
  · omega
  · rw [Nat.add_mul, Nat.one_mul]
    omega
  · have atMostOne : quotient % 2 * denominator ≤ 1 * denominator :=
      Nat.mul_le_mul_right denominator (by omega)
    rw [Nat.add_mul]
    omega

theorem roundQuotient_even_of_tie (positive : 0 < denominator)
    (tie : 2 * numerator = (2 * roundQuotient numerator denominator + 1) * denominator ∨
      2 * roundQuotient numerator denominator * denominator = 2 * numerator + denominator) :
    roundQuotient numerator denominator % 2 = 0 := by
  obtain ⟨quotient, remainder, whole, less, nearest⟩ := roundQuotient_cases numerator positive
  rw [Nat.add_mul, Nat.mul_assoc, Nat.one_mul] at tie
  rcases nearest with ⟨below, rounded⟩ | ⟨above, rounded⟩ | ⟨half, rounded⟩
  · rw [rounded] at tie
    omega
  · rw [rounded, Nat.add_mul, Nat.one_mul] at tie
    omega
  · rw [rounded]
    omega

theorem le_roundQuotient {least : Nat} (positive : 0 < denominator)
    (enough : least * denominator ≤ numerator) :
    least ≤ roundQuotient numerator denominator := by
  have quotient : least ≤ numerator / denominator := (Nat.le_div_iff_mul_le positive).mpr enough
  simp only [roundQuotient]
  split
  · exact quotient
  · split <;> omega

theorem roundQuotient_le {most : Nat} (positive : 0 < denominator)
    (limited : numerator < most * denominator) :
    roundQuotient numerator denominator ≤ most := by
  have quotient : numerator / denominator < most := (Nat.div_lt_iff_lt_mul positive).mpr limited
  simp only [roundQuotient]
  split
  · omega
  · split <;> omega

end

/-- A binary interchange format. The least positive value is
`2 ^ (-fineness)`, and codes whose exponent field reaches `exponentLimit` are
infinite or not numbers. -/
structure Format where
  fractionBits : Nat
  fineness : Nat
  exponentLimit : Nat
deriving DecidableEq, Repr

namespace Format

def binary32 : Format := ⟨23, 149, 255⟩

def binary64 : Format := ⟨52, 1074, 2047⟩

/-- The leading bit of a significand, which also counts the codes from one power of
two to the next. -/
def leadingBit (format : Format) : Nat :=
  1 <<< format.fractionBits

def one (format : Format) : Nat :=
  1 <<< format.fineness

/-- The code of infinity; smaller codes are finite, larger ones are not numbers. -/
def infinity (format : Format) : Nat :=
  format.exponentLimit * format.leadingBit

def significand (format : Format) (code : Nat) : Nat :=
  if code < format.leadingBit then code
  else format.leadingBit + code % format.leadingBit

def shift (format : Format) (code : Nat) : Nat :=
  code / format.leadingBit - 1

def units (format : Format) (code : Nat) : Nat :=
  format.significand code <<< format.shift code

/-- The code nearest to `numerator / denominator`, ties going to the even code.
A significand that rounds up to the next power of two carries into the exponent
field, which is the code of that power. -/
def round (format : Format) (numerator denominator : Nat) : Nat :=
  let scaled := numerator * format.one
  let shift := (scaled / denominator).log2 - format.fractionBits
  let significand := roundQuotient scaled (denominator <<< shift)
  min (shift * format.leadingBit + significand) format.infinity

end Format

end ScoreSheet
