import ScoreSheet.Decimal.Text
import ScoreSheet.Proofs.Decimal.Literal
import ScoreSheet.Proofs.Decimal.Rounding

/-!
Decimals in plain text: digits, one point and digits, with a minus or nothing in front.  The
text of a decimal is of this form and says exactly its number, and it is a literal that is read
as the same number again.
-/

namespace ScoreSheet

/-- A plain decimal and the number that its digits say. There are digits on either side of the
point. -/
def WritesPlain (negative : Bool) (size : ℚ) (text : List Char) : Prop :=
  ∃ whole fraction : List Char,
    text = (if negative then ['-'] else []) ++ (whole ++ '.' :: fraction) ∧
      IsDigits (whole ++ fraction) ∧ whole ≠ [] ∧ fraction ≠ [] ∧
      size = Nat.ofDigitChars 10 (whole ++ fraction) 0 / 10 ^ fraction.length

section

variable {negative otherNegative : Bool} {size otherSize : ℚ}

theorem toList_digitsText (number : Nat) : (digitsText number).toList = Nat.toDigits 10 number := by
  rw [digitsText, Nat.toString_eq_ofList_toDigits, String.toList_ofList]

theorem isDigits_toDigits (number : Nat) : IsDigits (Nat.toDigits 10 number) := fun _ member =>
  Nat.isDigit_of_mem_toDigits (by decide) (by decide) member

theorem isDigits_append {first second : List Char} (firstDigits : IsDigits first)
    (secondDigits : IsDigits second) : IsDigits (first ++ second) := fun character member =>
  (List.mem_append.mp member).elim (firstDigits character) (secondDigits character)

theorem ofDigitChars_append_eq (whole fraction : List Char) :
    Nat.ofDigitChars 10 (whole ++ fraction) 0 =
      10 ^ fraction.length * Nat.ofDigitChars 10 whole 0 + Nat.ofDigitChars 10 fraction 0 := by
  rw [Nat.ofDigitChars_append, Nat.ofDigitChars_eq_ofDigitChars_zero]

theorem writesPlain_of_parts (negative : Bool) (whole : Nat) {fraction zeros places : Nat}
    (padded : zeros + (Nat.toDigits 10 fraction).length = places) :
    WritesPlain negative ((10 ^ places * whole + fraction : Nat) / 10 ^ places)
      ((if negative then ['-'] else []) ++
        (Nat.toDigits 10 whole ++
          '.' :: (List.replicate zeros '0' ++ Nat.toDigits 10 fraction))) := by
  have length : (List.replicate zeros '0' ++ Nat.toDigits 10 fraction).length = places := by
    rw [List.length_append, List.length_replicate, padded]
  have zeroDigits : IsDigits (List.replicate zeros '0') := by
    intro character member
    rw [List.eq_of_mem_replicate member]
    decide
  refine ⟨_, _, rfl, isDigits_append (isDigits_toDigits whole)
      (isDigits_append zeroDigits (isDigits_toDigits fraction)), Nat.toDigits_ne_nil,
    List.append_ne_nil_of_right_ne_nil _ Nat.toDigits_ne_nil, ?_⟩
  rw [ofDigitChars_append_eq, ofDigitChars_append_eq (List.replicate zeros '0'), length,
    Nat.ofDigitChars_replicate_zero, Nat.ofDigitChars_ten_toDigits,
    Nat.ofDigitChars_ten_toDigits, Nat.mul_zero, Nat.mul_zero, Nat.zero_add]

theorem writesPlain_plainText (negative : Bool) (decimal : Decimal) :
    WritesPlain negative decimal.toRat
      ((if negative then "-" else "") ++ decimal.plainText).toList := by
  have sign : (if negative then "-" else "").toList = if negative then ['-'] else [] := by
    cases negative <;> decide
  have point : ".".toList = ['.'] := by decide
  have pow : ∀ power : Nat, ((Nat.pow 10 power : Nat) : ℚ) = 10 ^ power := Nat.cast_pow 10
  obtain ⟨digits, exponent⟩ := decimal
  cases exponent with
  | ofNat power =>
      have value : (⟨digits, Int.ofNat power⟩ : Decimal).toRat =
          (10 ^ 1 * (digits * Nat.pow 10 power) + 0 : Nat) / 10 ^ 1 := by
        change (digits : ℚ) * 10 ^ (power : Int) = _
        push_cast [pow]
        rw [zpow_natCast]
        ring
      have ending : ".0".toList = '.' :: (List.replicate 0 '0' ++ Nat.toDigits 10 0) := by decide
      rw [value, String.toList_append, sign, Decimal.plainText, String.toList_append,
        toList_digitsText, ending]
      exact writesPlain_of_parts negative _ rfl
  | negSucc places =>
      have unit : 0 < Nat.pow 10 (places + 1) := Nat.pow_pos (by decide)
      have short : (Nat.toDigits 10 (digits % Nat.pow 10 (places + 1))).length ≤ places + 1 :=
        (Nat.length_toDigits_le_iff (by decide) (Nat.succ_pos places)).mpr (Nat.mod_lt digits unit)
      have value : (⟨digits, Int.negSucc places⟩ : Decimal).toRat =
          (10 ^ (places + 1) * (digits / Nat.pow 10 (places + 1)) +
            digits % Nat.pow 10 (places + 1) : Nat) / 10 ^ (places + 1) := by
        change (digits : ℚ) * 10 ^ Int.negSucc places = _
        rw [zpow_negSucc, ← div_eq_mul_inv]
        congr 2
        exact (Nat.div_add_mod digits (10 ^ (places + 1))).symm
      rw [value, String.toList_append, sign, Decimal.plainText]
      simp only [String.toList_append, String.toList_ofList, toList_digitsText, point,
        digitsText_length, List.append_assoc, List.cons_append, List.nil_append]
      exact writesPlain_of_parts negative _ (Nat.sub_add_cancel short)

theorem WritesPlain.exists_literal {text : List Char} (written : WritesPlain negative size text) :
    ∃ decimal : Decimal, decimal.toRat = size ∧
      Literal.Writes ⟨negative, .decimal decimal⟩ text := by
  obtain ⟨whole, fraction, rfl, digits, some, _, rfl⟩ := written
  have nonempty : whole ++ fraction ≠ [] := List.append_ne_nil_of_left_ne_nil some fraction
  have number := Literal.NumeralText.decimal (.pointed nonempty digits) .none
  refine ⟨⟨Nat.ofDigitChars 10 (whole ++ fraction) 0, 0 - (fraction.length : Nat)⟩, ?_, ?_⟩
  · rw [Decimal.toRat, zero_sub, zpow_neg, zpow_natCast, div_eq_mul_inv]
  · rw [List.append_nil] at number
    cases negative with
    | true => exact ⟨_, _, rfl, .minus, number⟩
    | false => exact ⟨_, _, rfl, .none, number⟩

theorem WritesPlain.unique {text : String} (written : WritesPlain negative size text.toList)
    (otherWritten : WritesPlain otherNegative otherSize text.toList) :
    negative = otherNegative ∧ size = otherSize := by
  obtain ⟨decimal, rfl, literal⟩ := written.exists_literal
  obtain ⟨other, rfl, otherLiteral⟩ := otherWritten.exists_literal
  cases literal.unique otherLiteral
  exact ⟨rfl, rfl⟩

end

end ScoreSheet
