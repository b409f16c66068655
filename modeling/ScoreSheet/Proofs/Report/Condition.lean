import ScoreSheet.Proofs.Binary.Order
import ScoreSheet.Proofs.Report.ShownNumbers

/-!
The line of the condition against the line of scalars above it.  The condition compares binary
numbers and the line above shows decimals, so that a number just below ten is shown as ten.  But
rounding keeps the order and ten is shown as itself: whoever compares what is shown with eleven
and ten finds nothing that the condition contradicts.
-/

namespace ScoreSheet

namespace Binary32

theorem ofInt_bound_finite : (ofInt Sample.bound).isFinite = true := by decide

theorem toRat_ofInt_bound : (ofInt Sample.bound).toRat = 10 := by
  have small : |((10 : Int) : ℚ)| < 2 ^ 127 := by norm_num
  have exact := (roundsTo_ofInt small).toRat_eq
    (representable_intCast (show (10 : Int).natAbs ≤ 2 ^ 24 by decide))
  exact exact.trans (Int.cast_ofNat 10)

end Binary32

namespace Sample

theorem isConditionMet_iff (sample : Sample) :
    sample.isConditionMet = true ↔
      11 ≤ sample.x.toInt ∧ sample.y.isNaN = false ∧
        (sample.y = Binary32.infinity true ∨ sample.y.isFinite = true ∧ sample.y.toRat < 10) := by
  rw [isConditionMet, Bool.and_eq_true, decide_eq_true_eq,
    Binary32.lt_iff_of_right_finite Binary32.ofInt_bound_finite, Binary32.toRat_ofInt_bound]
  exact Iff.rfl

end Sample

section

variable {value : Binary32} {text : String}

theorem readDecimal?_ten :
    readDecimal? (Binary32.ofInt Sample.bound).toHundredthsText.toList = some 10 := by
  have hundredths : (Binary32.ofInt Sample.bound).hundredths = 1000 := by decide
  have unsigned : (Binary32.ofInt Sample.bound).isNegative = false := by decide
  rw [Binary32.toHundredthsText_of_finite Binary32.ofInt_bound_finite,
    (writesHundredths_hundredthsText _ _).read, hundredths, unsigned]
  norm_num [signedHundredths]

theorem Shows.le_ten (shows : Shows value text) (finite : value.isFinite = true)
    (below : value.toRat ≤ 10) :
    ∃ shown, readDecimal? text.toList = some shown ∧ shown ≤ 10 := by
  obtain ⟨shown, ten, read, readTen, ordered⟩ := shows.mono (shows_toHundredthsText _) finite
    Binary32.ofInt_bound_finite (below.trans Binary32.toRat_ofInt_bound.ge)
  rw [readDecimal?_ten] at readTen
  cases readTen
  exact ⟨shown, read, ordered⟩

theorem Shows.ten_le (shows : Shows value text) (finite : value.isFinite = true)
    (above : 10 ≤ value.toRat) :
    ∃ shown, readDecimal? text.toList = some shown ∧ 10 ≤ shown := by
  obtain ⟨ten, shown, readTen, read, ordered⟩ := (shows_toHundredthsText _).mono shows
    Binary32.ofInt_bound_finite finite (Binary32.toRat_ofInt_bound.le.trans above)
  rw [readDecimal?_ten] at readTen
  cases readTen
  exact ⟨shown, read, ordered⟩

end

namespace Report

def conditionText (sample : Sample) : String :=
  if sample.isConditionMet then conditionMet else conditionNotMet

theorem conditionText_eq_met_iff (sample : Sample) :
    conditionText sample = conditionMet ↔ sample.isConditionMet = true := by
  have different : conditionNotMet ≠ conditionMet := by decide
  unfold conditionText
  split
  · next met => exact ⟨fun _ => met, fun _ => rfl⟩
  · next notMet => exact ⟨fun same => absurd same different, fun met => absurd met notMet⟩

theorem text_condition (sample : Sample) :
    Action.text (condition sample) = conditionText sample ++ "\n" := rfl

variable {sample : Sample} {float : String}

theorem shown_of_met (met : sample.isConditionMet = true) (shows : Shows sample.y float) :
    float = "-inf" ∨ ∃ shown, readDecimal? float.toList = some shown ∧ shown ≤ 10 := by
  obtain ⟨_, _, least | ⟨finite, below⟩⟩ := sample.isConditionMet_iff.mp met
  · left
    have infinite : sample.y.isInfinite = true := by
      rw [least]
      decide
    have signed : sample.y.isNegative = true := by
      rw [least]
      decide
    rw [shows.infinite infinite, if_pos signed]
  · exact Or.inr (shows.le_ten finite below.le)

theorem shown_of_not_met (notMet : sample.isConditionMet ≠ true) (large : 11 ≤ sample.x.toInt)
    (shows : Shows sample.y float) :
    float = "NaN" ∨ float = "inf" ∨
      ∃ shown, readDecimal? float.toList = some shown ∧ 10 ≤ shown := by
  rw [ne_eq, sample.isConditionMet_iff, not_and, not_and, not_or, not_and, not_lt] at notMet
  cases number : sample.y.isNaN with
  | true => exact Or.inl (shows.notANumber number)
  | false =>
      obtain ⟨notLeast, above⟩ := notMet large number
      right
      rcases Binary32.isFinite_or_isInfinite number with finite | infinite
      · exact Or.inr (shows.ten_le finite (above finite))
      · left
        have unsigned : ¬ sample.y.isNegative = true := by
          intro signed
          have least := Binary32.eq_infinity infinite
          rw [signed] at least
          exact notLeast least
        rw [shows.infinite infinite, if_neg unsigned]

end Report

/-- A report says that the condition is met exactly if the integer is at least eleven and the
other number is negative infinity or below ten. What the line of scalars above shows agrees with
it: an integer from eleven on, and negative infinity or a decimal up to ten, if the condition is
met; no number, infinity or a decimal from ten on, if it is not met with such an integer. -/
theorem Part.condition_fits_scalars (sample : Sample) :
    ∃ float int message after,
      (Part.all sample).bytes = bytesOf
          (Action.text (Report.name sample) ++ Report.scalarsLine sample.c float int ++
            (message ++ "\n") ++ after) ∧
        (Part.scalars sample).bytes = bytesOf (Report.scalarsLine sample.c float int) ∧
        (Part.condition sample).bytes = bytesOf (message ++ "\n") ∧
        (message = Report.conditionMet ∨ message = Report.conditionNotMet) ∧
        (message = Report.conditionMet ↔ 11 ≤ sample.x.toInt ∧ sample.y.isNaN = false ∧
          (sample.y = Binary32.infinity true ∨
            sample.y.isFinite = true ∧ sample.y.toRat < 10)) ∧
        ∃ printed, Report.readInt? int.toList = some printed ∧
          (message = Report.conditionMet → 11 ≤ printed ∧
            (float = "-inf" ∨ ∃ shown, readDecimal? float.toList = some shown ∧ shown ≤ 10)) ∧
          (message = Report.conditionNotMet → 11 ≤ printed →
            float = "NaN" ∨ float = "inf" ∨
              ∃ shown, readDecimal? float.toList = some shown ∧ 10 ≤ shown) := by
  have shows := shows_toHundredthsText sample.y
  have met := Report.conditionText_eq_met_iff sample
  refine ⟨sample.y.toHundredthsText, toString sample.x.toInt, Report.conditionText sample,
    Action.text (Report.scores sample.scores.toList) ++
      Action.text (Report.averageLine (Report.mean sample)), ?_, ?_, ?_, ?_,
    met.trans sample.isConditionMet_iff, sample.x.toInt, Report.readInt?_intText _, ?_, ?_⟩
  · rw [bytes_eq, text_all, Report.text_scalars, Report.text_condition]
    simp only [String.append_assoc]
  · rw [bytes_eq, ← Report.text_scalars]
    rfl
  · rw [bytes_eq, ← Report.text_condition]
    rfl
  · unfold Report.conditionText
    split
    · exact Or.inl rfl
    · exact Or.inr rfl
  · intro isMet
    exact ⟨(sample.isConditionMet_iff.mp (met.mp isMet)).1,
      Report.shown_of_met (met.mp isMet) shows⟩
  · intro isNotMet large
    apply Report.shown_of_not_met _ large shows
    intro isMet
    have different : Report.conditionNotMet ≠ Report.conditionMet := by decide
    exact different (isNotMet.symm.trans (met.mpr isMet))

theorem Part.condition_fits_scalars_just_below_ten :
    let sample : Sample := { Sample.fixed with x := 11, y := ⟨0x411fffff⟩ }
    sample.y.toHundredthsText = "10.00" ∧
      ∃ float int printed,
        (Part.scalars sample).bytes = bytesOf (Report.scalarsLine sample.c float int) ∧
          (Part.condition sample).bytes = bytesOf (Report.conditionMet ++ "\n") ∧
          Report.readInt? int.toList = some printed ∧ 11 ≤ printed ∧
          (float = "-inf" ∨ ∃ shown, readDecimal? float.toList = some shown ∧ shown ≤ 10) := by
  intro sample
  obtain ⟨float, int, message, _, _, scalars, condition, _, met_iff, printed, read, met, _⟩ :=
    condition_fits_scalars sample
  have isMet : sample.isConditionMet = true := by decide
  obtain rfl := met_iff.mpr (sample.isConditionMet_iff.mp isMet)
  exact ⟨by decide, float, int, printed, scalars, condition, read, met rfl⟩

end ScoreSheet
