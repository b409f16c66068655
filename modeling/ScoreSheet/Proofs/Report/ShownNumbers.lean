import ScoreSheet.Proofs.Binary.Order
import ScoreSheet.Proofs.Decimal.Hundredths
import ScoreSheet.Proofs.Report.ExactMean
import ScoreSheet.Proofs.Report.ScoreLines
import ScoreSheet.Proofs.Report.Sequence

/-!
Binary numbers as a reader of a report sees them.  The text of a finite number is a plain decimal
with two places whose digits are the nearest number of hundredths.  So what is read is at most
half a hundredth off, and a number that is not larger is not shown as a larger one.  This is
true of every number in the line of scalars and of the average.
-/

namespace ScoreSheet

/-- A decimal with two places, without an exponent: a minus or nothing, a whole part without a
zero that it does not need, a point and two digits. All its digits together are the number of
hundredths. -/
def WritesHundredths (negative : Bool) (hundredths : Nat) (text : List Char) : Prop :=
  ∃ whole places : List Char,
    text = (if negative then ['-'] else []) ++ (whole ++ '.' :: places) ∧
      (∀ character ∈ whole ++ places, character.isDigit = true) ∧
      whole ≠ [] ∧ (whole.head? = some '0' → whole = ['0']) ∧ places.length = 2 ∧
      Nat.ofDigitChars 10 (whole ++ places) 0 = hundredths

def readHundredths? (text : List Char) : Option Nat := do
  let whole := text.takeWhile Char.isDigit
  let places ← ['.'].isPrefixOf? (text.dropWhile Char.isDigit)
  if whole ≠ [] ∧ places.length = 2 then Report.readNat? (whole ++ places) else none

def readDecimal? : List Char → Option ℚ
  | '-' :: unsigned => (readHundredths? unsigned).map (signedHundredths true)
  | unsigned => (readHundredths? unsigned).map (signedHundredths false)

section

variable {negative : Bool} {hundredths : Nat} {text : List Char}

theorem head?_toDigits_ne_zero {number : Nat} (positive : 0 < number) :
    (Nat.toDigits 10 number).head? ≠ some '0' := by
  induction number using Nat.strong_induction_on with
  | h number ih =>
      rw [Nat.toDigits_eq_if (by decide)]
      split
      · rw [List.head?_cons, ne_eq, Option.some.injEq, Nat.digitChar_eq_zero]
        exact positive.ne'
      · next large =>
          rw [List.head?_append_of_ne_nil _ Nat.toDigits_ne_nil]
          exact ih (number / 10) (by omega) (by omega)

theorem writesHundredths_hundredthsText (negative : Bool) (hundredths : Nat) :
    WritesHundredths negative hundredths
      ((if negative then "-" else "") ++ hundredthsText hundredths).toList := by
  have digits : ∀ number : Nat, (toString number).toList = Nat.toDigits 10 number := by
    intro number
    rw [Nat.toString_eq_ofList_toDigits, String.toList_ofList]
  have tenth : hundredths % 100 / 10 < 10 := by omega
  have last : hundredths % 100 % 10 < 10 := by omega
  refine ⟨Nat.toDigits 10 (hundredths / 100),
    [(hundredths % 100 / 10).digitChar, (hundredths % 100 % 10).digitChar], ?_, ?_,
    Nat.toDigits_ne_nil, ?_, rfl, ?_⟩
  · have point : ".".toList = ['.'] := by decide
    have sign : (if negative then "-" else "").toList = if negative then ['-'] else [] := by
      cases negative <;> decide
    simp only [hundredthsText, String.toList_append, digits, point, sign,
      Nat.toDigits_of_lt_base tenth, Nat.toDigits_of_lt_base last, List.append_assoc,
      List.cons_append, List.nil_append]
  · intro character member
    rcases List.mem_append.mp member with whole | place
    · exact Nat.isDigit_of_mem_toDigits (by decide) (by decide) whole
    · rcases List.mem_pair.mp place with rfl | rfl
      · exact Nat.isDigit_digitChar.trans (decide_eq_true tenth)
      · exact Nat.isDigit_digitChar.trans (decide_eq_true last)
  · intro zero
    by_cases positive : 0 < hundredths / 100
    · exact absurd zero (head?_toDigits_ne_zero positive)
    · rw [Nat.eq_zero_of_not_pos positive, Nat.toDigits_zero]
  · rw [Nat.ofDigitChars_append, Nat.ofDigitChars_ten_toDigits,
      Nat.ofDigitChars_cons_digitChar_of_lt_ten tenth,
      Nat.ofDigitChars_cons_digitChar_of_lt_ten last, Nat.ofDigitChars_nil]
    omega

theorem readHundredths?_eq {whole places : List Char}
    (digits : ∀ character ∈ whole ++ places, character.isDigit = true) (nonempty : whole ≠ [])
    (two : places.length = 2) :
    readHundredths? (whole ++ '.' :: places) = some (Nat.ofDigitChars 10 (whole ++ places) 0) := by
  have wholeDigits : ∀ character ∈ whole, character.isDigit = true := fun character member =>
    digits character (List.mem_append_left places member)
  have taken : (whole ++ '.' :: places).takeWhile Char.isDigit = whole := by
    rw [List.takeWhile_append_of_pos wholeDigits, List.takeWhile_cons_of_neg (by decide),
      List.append_nil]
  have rest : (whole ++ '.' :: places).dropWhile Char.isDigit = '.' :: places := by
    rw [List.dropWhile_append_of_pos wholeDigits, List.dropWhile_cons_of_neg (by decide)]
  have point : ['.'].isPrefixOf? ('.' :: places) = some places := rfl
  have some : whole ++ places ≠ [] := List.append_ne_nil_of_left_ne_nil nonempty places
  simp only [readHundredths?, taken, rest, point, Option.bind_eq_bind, Option.bind_some]
  rw [if_pos ⟨nonempty, two⟩, Report.readNat?, if_pos ⟨some, List.all_eq_true.mpr digits⟩]

theorem WritesHundredths.read (written : WritesHundredths negative hundredths text) :
    readDecimal? text = some (signedHundredths negative hundredths) := by
  obtain ⟨whole, places, rfl, digits, nonempty, _, two, value⟩ := written
  have read := readHundredths?_eq digits nonempty two
  rw [value] at read
  cases negative with
  | true =>
      change (readHundredths? (whole ++ '.' :: places)).map (signedHundredths true) = _
      rw [read]
      rfl
  | false =>
      change readDecimal? (whole ++ '.' :: places) = _
      rw [readDecimal?, read]
      · rfl
      · -- A digit stands where the minus would.
        intro unsigned minus
        obtain ⟨first, rest, rfl⟩ := List.exists_cons_of_ne_nil nonempty
        obtain rfl := (List.cons.inj minus).1
        exact absurd (digits '-' List.mem_cons_self) (by decide)

end

/-- What a text shows of a binary number. The sign is the one of the pattern, which zeros have
and numbers that are shown as zero. -/
structure Shows (value : Binary32) (text : String) : Prop where
  notANumber : value.isNaN = true → text = "NaN"
  infinite : value.isInfinite = true → text = if value.isNegative then "-inf" else "inf"
  finite : value.isFinite = true → ∃ hundredths,
    WritesHundredths value.isNegative hundredths text.toList ∧
      IsNearestWhole (100 * |value.toRat|) hundredths

theorem Binary32.isNaN_of_infinite {value : Binary32} (infinite : value.isInfinite = true) :
    value.isNaN = false := by
  have magnitude : value.magnitude = Format.binary32.infinity := beq_iff_eq.mp infinite
  rw [isNaN, magnitude]
  exact decide_eq_false (Nat.lt_irrefl _)

theorem shows_toHundredthsText (value : Binary32) : Shows value value.toHundredthsText where
  notANumber none := by rw [Binary32.toHundredthsText, if_pos none]
  infinite infinite := by
    simp only [Binary32.toHundredthsText, Binary32.isNaN_of_infinite infinite, infinite,
      Bool.false_eq_true, if_false, if_true]
    cases value.isNegative <;> rfl
  finite finite := by
    rw [Binary32.toHundredthsText_of_finite finite]
    exact ⟨value.hundredths, writesHundredths_hundredthsText _ _, value.isNearestWhole_hundredths⟩

section

variable {value other : Binary32} {text otherText : String}

theorem Shows.close (shows : Shows value text) (finite : value.isFinite = true) :
    ∃ shown, readDecimal? text.toList = some shown ∧ |shown - value.toRat| ≤ 1 / 200 := by
  obtain ⟨hundredths, written, nearest⟩ := shows.finite finite
  exact ⟨_, written.read, Binary32.abs_signedHundredths_sub_le nearest⟩

theorem Shows.mono (shows : Shows value text) (otherShows : Shows other otherText)
    (finite : value.isFinite = true) (otherFinite : other.isFinite = true)
    (ordered : value.toRat ≤ other.toRat) :
    ∃ shown otherShown, readDecimal? text.toList = some shown ∧
      readDecimal? otherText.toList = some otherShown ∧ shown ≤ otherShown := by
  obtain ⟨hundredths, written, nearest⟩ := shows.finite finite
  obtain ⟨otherHundredths, otherWritten, otherNearest⟩ := otherShows.finite otherFinite
  exact ⟨_, _, written.read, otherWritten.read,
    Binary32.signedHundredths_mono nearest otherNearest ordered⟩

end

namespace Report

def scalarsLine (character : Char) (float int : String) : String :=
  "Char: " ++ character.toString ++ ", Float: " ++ float ++ ", Int: " ++ int ++ "\n"

theorem text_scalars (sample : Sample) :
    Action.text (scalars sample) =
      scalarsLine sample.c sample.y.toHundredthsText (toString sample.x.toInt) := by
  simp only [scalars, text_line_cons, text_line_nil, scalarsLine, String.append_assoc]

end Report

/-- The line of scalars shows the number of the sample, whichever pattern that is, and the last
line of a report shows its average, which is finite. What is shown of a finite number is at most
half a hundredth off, and is not larger than what is shown of a number that is not smaller. -/
theorem Part.write_shows_nearest_hundredths :
    (∀ sample, ∃ float,
      (Part.scalars sample).bytes =
          bytesOf (Report.scalarsLine sample.c float (toString sample.x.toInt)) ∧
        Shows sample.y float) ∧
      (∀ sample, (Report.mean sample).isFinite = true ∧ ∃ average,
        (Part.all sample).bytes = bytesOf
            (Action.text (Report.head sample) ++ "Average Score: " ++ average ++ "\n") ∧
          Shows (Report.mean sample) average) ∧
      (∀ value text, Shows value text → value.isFinite = true →
        ∃ shown, readDecimal? text.toList = some shown ∧ |shown - value.toRat| ≤ 1 / 200) ∧
      ∀ value other text otherText, Shows value text → Shows other otherText →
        value.isFinite = true → other.isFinite = true → value.toRat ≤ other.toRat →
          ∃ shown otherShown, readDecimal? text.toList = some shown ∧
            readDecimal? otherText.toList = some otherShown ∧ shown ≤ otherShown := by
  refine ⟨?_, ?_, ?_, ?_⟩
  · intro sample
    refine ⟨_, ?_, shows_toHundredthsText sample.y⟩
    rw [bytes_eq, ← Report.text_scalars]
    rfl
  · intro sample
    refine ⟨Report.mean_isFinite sample, _, ?_, shows_toHundredthsText (Report.mean sample)⟩
    rw [bytes_eq, text_all, ← Report.text_head]
    simp only [Report.averageLine, Report.text_line_cons, Report.text_line_nil,
      String.append_assoc]
  · intro value text shows finite
    exact shows.close finite
  · intro value other text otherText shows otherShows finite otherFinite ordered
    exact shows.mono otherShows finite otherFinite ordered

theorem Part.write_shows_nearest_hundredths_of_ties :
    ∃ shown otherShown, readDecimal? "0.12".toList = some shown ∧
      readDecimal? "0.38".toList = some otherShown ∧ shown ≤ otherShown := by
  obtain ⟨_, _, _, mono⟩ := write_shows_nearest_hundredths
  have eighth := shows_toHundredthsText (Binary32.ofRatio false 1 8)
  have threeEighths := shows_toHundredthsText (Binary32.ofRatio false 3 8)
  have ordered : (Binary32.ofRatio false 1 8).toRat ≤ (Binary32.ofRatio false 3 8).toRat := by
    rw [Binary32.toRat_le_iff]
    decide
  exact mono _ _ "0.12" "0.38" eighth threeEighths (by decide) (by decide) ordered

example :
    (Binary32.ofRatio false 1 8).toHundredthsText = "0.12" ∧
      (Binary32.ofRatio false 3 8).toHundredthsText = "0.38" ∧
      (Binary32.ofRatio true 1 512).toHundredthsText = "-0.00" := by
  decide

end ScoreSheet
