import ScoreSheet.Decimal.Text
import ScoreSheet.Proofs.Decimal.Rounding

/-!
The decimal that the search from coarse to fine powers of ten finds has no more digits than any
other decimal that reads back.  The decimals that read back make up an interval around the value
of the code, and the one that is found exceeds the value by one step of its grid at most.  A
decimal with fewer digits would reach across a power of ten in that interval, and a power of ten
is found on a coarser grid than the one of the decimal with more digits.
-/

namespace ScoreSheet
namespace Decimal

section

variable {format : Format} {code : Nat} {decimal other : Decimal} {exponent top : Int}

theorem ten_zpow_eq_div (exponent : Int) :
    (10 : ℚ) ^ exponent = 10 ^ exponent.toNat / 10 ^ (-exponent).toNat := by
  cases exponent with
  | ofNat power =>
      change (10 : ℚ) ^ (power : Int) = 10 ^ power / 10 ^ (-(power : Int)).toNat
      rw [Int.toNat_eq_zero.mpr (by omega), pow_zero, div_one, zpow_natCast]
  | negSucc power =>
      change (10 : ℚ) ^ Int.negSucc power = 10 ^ 0 / 10 ^ (power + 1)
      rw [zpow_negSucc, pow_zero, one_div]

theorem toRat_le_toRat {digits otherDigits : Nat} (exponent : Int)
    (ordered : digits ≤ otherDigits) :
    (⟨digits, exponent⟩ : Decimal).toRat ≤ (⟨otherDigits, exponent⟩ : Decimal).toRat :=
  mul_le_mul_of_nonneg_right (by exact_mod_cast ordered) (ten_zpow_pos exponent).le

theorem nearest_size (format : Format) (code : Nat) :
    format.Nearest ((format.units code : ℚ) / format.one * format.one) code := by
  rw [div_mul_cancel₀ _ format.one_cast_pos.ne']
  exact format.nearest_units code

theorem round_eq_of_between (regular : format.Regular) (finite : code < format.infinity)
    {low high : ℚ} (lowNearest : format.Nearest (low * format.one) code)
    (highNearest : format.Nearest (high * format.one) code) (above : low ≤ decimal.toRat)
    (below : decimal.toRat ≤ high) : decimal.round format = code := by
  have scale := format.one_cast_pos.le
  rw [round_eq_iff regular finite]
  exact lowNearest.between highNearest (mul_le_mul_of_nonneg_right above scale)
    (mul_le_mul_of_nonneg_right below scale)

theorem toRat_exact (format : Format) (code : Nat) :
    (exact format code).toRat = format.units code / format.one := by
  have five : ((Nat.pow 5 format.fineness : Nat) : ℚ) = 5 ^ format.fineness := Nat.cast_pow 5 _
  rw [exact, toRat, Nat.cast_mul, five, zpow_neg, zpow_natCast, Format.one, Nat.shiftLeft_eq,
    Nat.one_mul, Nat.cast_pow, Nat.cast_ofNat, mul_assoc, ← div_eq_mul_inv,
    div_eq_mul_inv _ (2 ^ _)]
  congr 1
  rw [show (10 : ℚ) = 5 * 2 by norm_num, mul_pow, div_mul_cancel_left₀ (by positivity)]

theorem round_exact (regular : format.Regular) (finite : code < format.infinity) :
    (exact format code).round format = code := by
  rw [round_eq_iff regular finite, toRat_exact]
  exact nearest_size format code

theorem exists_neighbours (format : Format) (code : Nat) (exponent : Int) :
    ∃ lower upperNearer,
      neighbours format code exponent =
          (⟨lower, exponent⟩, ⟨lower + 1, exponent⟩, upperNearer) ∧
        (⟨lower, exponent⟩ : Decimal).toRat ≤ format.units code / format.one ∧
          format.units code / format.one < (⟨lower + 1, exponent⟩ : Decimal).toRat := by
  have scale := format.one_cast_pos
  have shrink : (0 : ℚ) < 10 ^ (-exponent).toNat := by positivity
  have positive : 0 < format.one * Nat.pow 10 exponent.toNat :=
    Nat.mul_pos format.one_pos (Nat.pow_pos (by decide))
  refine ⟨_, _, rfl, ?_, ?_⟩
  · have atMost := Nat.div_mul_le_self (format.units code * Nat.pow 10 (-exponent).toNat)
      (format.one * Nat.pow 10 exponent.toNat)
    rw [toRat, ten_zpow_eq_div, ← mul_div_assoc, div_le_div_iff₀ shrink scale, mul_assoc,
      mul_comm _ (format.one : ℚ)]
    exact_mod_cast atMost
  · have below := Nat.lt_mul_div_succ (format.units code * Nat.pow 10 (-exponent).toNat) positive
    rw [toRat, ten_zpow_eq_div, ← mul_div_assoc, div_lt_div_iff₀ scale shrink, mul_assoc,
      mul_comm _ (format.one : ℚ), mul_comm (_ : ℚ) ((format.one : ℚ) * _)]
    exact_mod_cast below

theorem onGrid?_eq_some (found : onGrid? format code exponent = some decimal) :
    decimal.exponent = exponent ∧ decimal.round format = code ∧
      ((decimal.digits : ℚ) - 1) * 10 ^ decimal.exponent ≤ format.units code / format.one := by
  obtain ⟨lower, upperNearer, around, below, _⟩ := exists_neighbours format code exponent
  simp only [onGrid?, around] at found
  split at found
  · next chosen =>
      cases found
      refine ⟨rfl, chosen.1, ?_⟩
      rwa [Nat.cast_add_one, add_sub_cancel_right]
  · split at found
    · next chosen =>
        cases found
        refine ⟨rfl, chosen, (mul_le_mul_of_nonneg_right ?_ (ten_zpow_pos _).le).trans below⟩
        linarith
    · cases found

theorem round_ne_of_onGrid?_eq_none (regular : format.Regular) (finite : code < format.infinity)
    (none : onGrid? format code exponent = none) (digits : Nat) :
    (⟨digits, exponent⟩ : Decimal).round format ≠ code := by
  obtain ⟨lower, upperNearer, around, below, above⟩ := exists_neighbours format code exponent
  simp only [onGrid?, around] at none
  intro reads
  have self := nearest_size format code
  have nearest := (round_eq_iff regular finite).mp reads
  -- What lies beyond a neighbour reads back only if the neighbour does.
  have neighbour : (⟨lower, exponent⟩ : Decimal).round format = code ∨
      (⟨lower + 1, exponent⟩ : Decimal).round format = code := by
    rcases Nat.lt_or_ge lower digits with beyond | upTo
    · exact Or.inr (round_eq_of_between regular finite self nearest above.le
        (toRat_le_toRat exponent beyond))
    · exact Or.inl (round_eq_of_between regular finite nearest self
        (toRat_le_toRat exponent upTo) below)
  split at none
  · cases none
  · next notUpper =>
      split at none
      · cases none
      · next notLower =>
          rcases neighbour with lowerReads | upperReads
          · exact notLower lowerReads
          · exact notUpper ⟨upperReads, Or.inr notLower⟩

/-! ### The search -/

/-- A decimal that reads back on a grid up to `10 ^ top` and is at most one step of it above the
value of the code, and no coarser grid up to there has a decimal that reads back. -/
structure IsCoarsest (format : Format) (code : Nat) (top : Int) (decimal : Decimal) : Prop where
  reads : decimal.round format = code
  near : ((decimal.digits : ℚ) - 1) * 10 ^ decimal.exponent ≤ format.units code / format.one
  coarsest : ∀ digits exponent, decimal.exponent < exponent → exponent ≤ top →
    (⟨digits, exponent⟩ : Decimal).round format ≠ code

theorem isCoarsest_firstOnGrid (regular : format.Regular) (finite : code < format.infinity)
    (grids : Nat) (reaches : top - grids ≤ -format.fineness) :
    IsCoarsest format code top (firstOnGrid format code top grids) := by
  induction grids generalizing top with
  | zero =>
      refine ⟨round_exact regular finite, ?_, ?_⟩
      · have less : ((exact format code).digits : ℚ) - 1 ≤ (exact format code).digits := by linarith
        exact (mul_le_mul_of_nonneg_right less (ten_zpow_pos _).le).trans_eq
          (toRat_exact format code)
      · intro digits exponent finer upTo
        change -(format.fineness : Int) < exponent at finer
        omega
  | succ grids hypothesis =>
      rw [firstOnGrid]
      cases found : onGrid? format code top with
      | some decimal =>
          obtain ⟨same, reads, near⟩ := onGrid?_eq_some found
          refine ⟨reads, near, ?_⟩
          intro digits exponent finer upTo
          change decimal.exponent < exponent at finer
          omega
      | none =>
          obtain ⟨reads, near, coarsest⟩ := hypothesis (by omega : top - 1 - grids ≤ _)
          refine ⟨reads, near, ?_⟩
          intro digits exponent finer upTo
          rcases Int.lt_or_eq_of_le upTo with below | rfl
          · exact coarsest digits exponent finer (by omega)
          · exact round_ne_of_onGrid?_eq_none regular finite found digits

theorem isCoarsest_shortest (regular : format.Regular) (finite : code < format.infinity)
    (positive : 0 < code) :
    IsCoarsest format code (digitsText (format.units code / format.one)).length
      (shortest format code) := by
  rw [shortest, if_neg positive.ne']
  apply isCoarsest_firstOnGrid regular finite
  omega

theorem round_shortest (regular : format.Regular) (finite : code < format.infinity) :
    (shortest format code).round format = code := by
  rcases Nat.eq_zero_or_pos code with rfl | positive
  · rfl
  · exact (isCoarsest_shortest regular finite positive).reads

theorem toRat_power (power : Int) : (⟨1, power⟩ : Decimal).toRat = 10 ^ power := by
  rw [toRat, Nat.cast_one, one_mul]

namespace IsCoarsest

variable (coarsest : IsCoarsest format code top decimal)

include coarsest

theorem lt_of_power_reads {power : Int} (reads : (⟨1, power⟩ : Decimal).round format = code)
    (coarser : decimal.exponent < power) : top < power := by
  by_contra upTo
  exact coarsest.coarsest 1 power coarser (not_lt.mp upTo) reads

theorem digits_le {steps : Nat} (below : (format.units code : ℚ) / format.one < 10 ^ top)
    (upTo : top ≤ decimal.exponent + steps) : decimal.digits ≤ 10 ^ steps := by
  have powers : (10 : ℚ) ^ top ≤ 10 ^ steps * 10 ^ decimal.exponent := by
    rw [mul_comm, ← zpow_natCast, ← ten_zpow_add]
    exact ten_zpow_le upTo
  have less : (decimal.digits : ℚ) - 1 < 10 ^ steps :=
    lt_of_mul_lt_mul_right ((coarsest.near.trans_lt below).trans_le powers)
      (ten_zpow_pos decimal.exponent).le
  have digits : (decimal.digits : ℚ) < (10 ^ steps + 1 : Nat) := by
    push_cast
    linarith
  exact Nat.le_of_lt_succ (by exact_mod_cast digits)

theorem digits_lt (regular : format.Regular) (finite : code < format.infinity)
    (positive : 0 < code) (below : (format.units code : ℚ) / format.one < 10 ^ top)
    (reads : other.round format = code) {count : Nat} (few : other.digits < 10 ^ count) :
    decimal.digits < 10 ^ count := by
  have self := nearest_size format code
  have own := (round_eq_iff regular finite).mp coarsest.reads
  have nearest := (round_eq_iff regular finite).mp reads
  have some : 0 < other.digits := by
    rw [Nat.pos_iff_ne_zero]
    intro none
    rw [round, if_pos none] at reads
    omega
  by_contra many
  rw [not_lt] at many
  have counted : 0 < count := by
    rw [Nat.pos_iff_ne_zero]
    rintro rfl
    omega
  have grid : ∀ steps, steps < count → decimal.exponent + steps < top := by
    intro steps fewer
    by_contra upTo
    have most := coarsest.digits_le below (not_lt.mp upTo)
    have powers := Nat.pow_lt_pow_right (by decide : 1 < 10) fewer
    omega
  rcases lt_or_ge decimal.exponent other.exponent with coarser | finer
  · have beyond : top < other.exponent := by
      by_contra upTo
      exact coarsest.coarsest other.digits other.exponent coarser (not_lt.mp upTo) reads
    have reached : (⟨1, top⟩ : Decimal).toRat ≤ other.toRat := by
      rw [toRat_power]
      have powers := ten_zpow_le beyond.le
      have least : (1 : ℚ) ≤ other.digits := by exact_mod_cast some
      exact powers.trans (le_mul_of_one_le_left (ten_zpow_pos _).le least)
    have above : (format.units code : ℚ) / format.one ≤ (⟨1, top⟩ : Decimal).toRat := by
      rw [toRat_power]
      exact below.le
    have powerReads := round_eq_of_between regular finite self nearest above reached
    have inside := grid 0 counted
    exact lt_irrefl top (coarsest.lt_of_power_reads powerReads (by omega))
  · have reached : other.toRat ≤ (⟨1, count + decimal.exponent⟩ : Decimal).toRat := by
      rw [toRat_power, ten_zpow_add, zpow_natCast, toRat]
      apply mul_le_mul _ (ten_zpow_le finer) (ten_zpow_pos _).le (by positivity)
      exact_mod_cast few.le
    have above : (⟨1, count + decimal.exponent⟩ : Decimal).toRat ≤ decimal.toRat := by
      rw [toRat_power, ten_zpow_add, zpow_natCast, toRat]
      apply mul_le_mul_of_nonneg_right _ (ten_zpow_pos _).le
      exact_mod_cast many
    have powerReads := round_eq_of_between regular finite nearest own reached above
    have outside := coarsest.lt_of_power_reads powerReads (by omega)
    have inside := grid (count - 1) (by omega)
    omega

end IsCoarsest

theorem value_lt_start (format : Format) (code : Nat) :
    (format.units code : ℚ) / format.one <
      10 ^ ((digitsText (format.units code / format.one)).length : Int) := by
  rw [zpow_natCast, div_lt_iff₀ format.one_cast_pos]
  have whole := lt_ten_pow_length (format.units code / format.one)
  exact_mod_cast (Nat.div_lt_iff_lt_mul format.one_pos).mp whole

/-- No decimal that reads back has fewer digits than the one that is found. -/
theorem digits_shortest_lt (regular : format.Regular) (finite : code < format.infinity)
    (reads : other.round format = code) {count : Nat} (few : other.digits < 10 ^ count) :
    (shortest format code).digits < 10 ^ count := by
  rcases Nat.eq_zero_or_pos code with rfl | positive
  · exact Nat.pow_pos (by decide)
  · exact (isCoarsest_shortest regular finite positive).digits_lt regular finite positive
      (value_lt_start format code) reads few

end

end Decimal
end ScoreSheet
