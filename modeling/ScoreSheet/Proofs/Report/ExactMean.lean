import ScoreSheet.Proofs.Average.Accuracy
import ScoreSheet.Proofs.Decimal.Hundredths
import ScoreSheet.Proofs.Report.Reading

/-!
The average of a report.  What is true of rounded averages is true of it: it is finite, and
the exact mean rounded once if the sum of the scores needs no rounding.

The printed average is the exact mean of the five scores as long as their sum is at most
`655361` in size, although it is rounded to a binary number first and to two places then.
A fifth of such a sum is less than half a hundredth off from a binary number: from one with
seven binary places up to `655360`, and from one with six at `655361`.  The nearest number
is not farther off, and from less than half a hundredth away the exact places are shown.
The next sum, `655362`, is printed with a wrong last digit.
-/

namespace ScoreSheet

namespace Report

open Binary32 (RoundsTo)

theorem rounded_mean (sample : Sample) :
    Average.Rounded sample.scores.toList (Binary32.ofInt (exactSum sample.scores.toList))
      (Binary32.ofInt 5) (mean sample) := by
  have five := length_scores sample
  have rounded := Average.rounded_div (scores_ne_nil sample) (by omega)
  rwa [five, Nat.cast_ofNat] at rounded

theorem averageOf_scores (sample : Sample) :
    (averageOf sample.scores.toList).2 = .ok (mean sample) := by
  have five := length_scores sample
  have average := Average.averageOf_eq_div (scores_ne_nil sample) (by omega)
  rwa [five, Nat.cast_ofNat] at average

theorem mean_isFinite (sample : Sample) : (mean sample).isFinite = true :=
  (rounded_mean sample).rounds.finite

theorem mean_rounds {sample : Sample} (small : (exactSum sample.scores.toList).natAbs ≤ 2 ^ 24) :
    RoundsTo (exactSum sample.scores.toList / 5) (mean sample) := by
  have five := length_scores sample
  have once := (rounded_mean sample).rounds_mean (by omega) (Binary32.representable_intCast small)
  rw [Average.exactMean, five] at once
  exact once

end Report

def fifthsText (fifths : Int) : String :=
  (if fifths < 0 then "-" else "") ++ toString (fifths.natAbs / 5) ++ "." ++
    toString (2 * (fifths.natAbs % 5)) ++ "0"

theorem abs_fifth (fifths : Int) : |(fifths : ℚ) / 5| = (20 * fifths.natAbs : Nat) / 100 := by
  rw [abs_div, ← Int.cast_abs, ← Nat.cast_natAbs, Nat.abs_ofNat]
  push_cast
  ring

theorem fifthsText_eq (fifths : Int) :
    fifthsText fifths =
      (if (fifths : ℚ) / 5 < 0 then "-" else "") ++ hundredthsText (20 * fifths.natAbs) := by
  have sign : (fifths : ℚ) / 5 < 0 ↔ fifths < 0 := by
    rw [div_lt_iff₀ (by norm_num), zero_mul, Int.cast_lt_zero]
  have whole : 20 * fifths.natAbs / 100 = fifths.natAbs / 5 := by omega
  have tenths : 20 * fifths.natAbs % 100 / 10 = 2 * (fifths.natAbs % 5) := by omega
  have last : 20 * fifths.natAbs % 100 % 10 = 0 := by omega
  have zero : toString 0 = "0" := rfl
  simp only [fifthsText, hundredthsText, sign, whole, tenths, last, zero, String.append_assoc]

theorem isTwoPlaces_fifthsText (fifths : Int) : IsTwoPlaces (fifths / 5) (fifthsText fifths) := by
  rw [fifthsText_eq]
  exact isTwoPlaces_hundredthsText (abs_fifth fifths)

open Binary32 (RoundsTo Representable)

/-- A fifth of an integer is `2 / 5` of a step at most from some number with seven binary
places, and such a number has no more than 24 bits up to `2 ^ 17`. -/
theorem exists_representable_near_fifths {fifths : Int} (small : fifths.natAbs ≤ 655361) :
    ∃ near, Representable near ∧ |(fifths : ℚ) / 5 - near| < 1 / 200 := by
  by_cases inner : fifths.natAbs ≤ 655360
  · have fits : ((128 * fifths + 2) / 5).natAbs ≤ 2 ^ 24 := by omega
    have low : 5 * ((128 * fifths + 2) / 5) ≤ 128 * fifths + 2 := by omega
    have high : 128 * fifths - 2 ≤ 5 * ((128 * fifths + 2) / 5) := by omega
    refine ⟨_, Binary32.representable_div_two_pow fits (show 7 ≤ 149 by decide), ?_⟩
    have lowCast : (5 * ((128 * fifths + 2) / 5 : Int) : ℚ) ≤ 128 * fifths + 2 := by
      exact_mod_cast low
    have highCast : (128 * fifths - 2 : ℚ) ≤ 5 * ((128 * fifths + 2) / 5 : Int) := by
      exact_mod_cast high
    rw [abs_lt]
    constructor <;> linarith
  · -- Past `2 ^ 17` the steps are twice as large, which would be too much for some fifths.
    have ends : fifths = 655361 ∨ fifths = -655361 := by omega
    rcases ends with rfl | rfl
    · refine ⟨_, Binary32.representable_div_two_pow (show (8388621 : Int).natAbs ≤ 2 ^ 24 by decide)
        (show 6 ≤ 149 by decide), ?_⟩
      norm_num [abs_lt]
    · refine ⟨_, Binary32.representable_div_two_pow
        (show (-8388621 : Int).natAbs ≤ 2 ^ 24 by decide) (show 6 ≤ 149 by decide), ?_⟩
      norm_num [abs_lt]

theorem toHundredthsText_fifths {fifths : Int} {value : Binary32}
    (rounds : RoundsTo (fifths / 5) value) (small : fifths.natAbs ≤ 655361) :
    value.toHundredthsText = fifthsText fifths := by
  obtain ⟨_, ⟨near, finite, rfl⟩, off⟩ := exists_representable_near_fifths small
  have close := (rounds.nearest near finite).trans_lt off
  rw [fifthsText_eq]
  exact Binary32.toHundredthsText_eq rounds.finite rounds.sign (abs_fifth fifths) close

namespace Report

/-- The line that a text ends with, without the line break at its end. -/
def IsLastLine (line text : String) : Prop :=
  '\n' ∉ line.toList ∧ ∃ earlier, text = earlier ++ "\n" ++ line ++ "\n"

theorem text_line_ends (pieces : List String) :
    ∃ line, Action.text (Action.line pieces) = line ++ "\n" := by
  induction pieces with
  | nil => exact ⟨"", rfl⟩
  | cons piece rest ih =>
      obtain ⟨line, same⟩ := ih
      exact ⟨piece ++ line, by rw [text_line_cons, same, String.append_assoc]⟩

theorem text_scoresFrom_ends (first : Nat) (values : List Int32) (before : String) :
    ∃ earlier, before ++ "\n" ++ Action.text (scoresFrom first values) = earlier ++ "\n" := by
  induction values generalizing first before with
  | nil => exact ⟨before, String.append_empty⟩
  | cons value rest ih =>
      obtain ⟨line, same⟩ := text_line_ends ["Score ", toString first, ": ", toString value.toInt]
      obtain ⟨earlier, ends⟩ := ih (first + 1) (before ++ "\n" ++ line)
      refine ⟨earlier, ?_⟩
      rw [text_scoresFrom_cons, score, same, ← ends]
      simp only [String.append_assoc]

theorem isNumberText_fifthsText (fifths : Int) : IsNumberText (fifthsText fifths) := by
  have sign : IsNumberText (if fifths < 0 then "-" else "") := by
    split <;> decide
  have point : IsNumberText "." := by decide
  have zero : IsNumberText "0" := by decide
  have whole := isNumberText_append sign (isNumberText_natText (fifths.natAbs / 5))
  have tenths := isNumberText_append (isNumberText_append whole point)
    (isNumberText_natText (2 * (fifths.natAbs % 5)))
  exact isNumberText_append tenths zero

end Report

namespace Part

theorem text_all_ends (sample : Sample) :
    ∃ earlier, (Part.all sample).text =
      earlier ++ "\n" ++ ("Average Score: " ++ (Report.mean sample).toHundredthsText) ++ "\n" := by
  obtain ⟨line, condition⟩ := Report.text_line_ends
    [if sample.isConditionMet then Report.conditionMet else Report.conditionNotMet]
  obtain ⟨earlier, ends⟩ := Report.text_scoresFrom_ends 1 sample.scores.toList
    (Action.text (Report.name sample) ++ Action.text (Report.scalars sample) ++ line)
  refine ⟨earlier, ?_⟩
  rw [← ends, text_all, Report.condition, condition]
  simp only [Report.scores, Report.averageLine, Report.text_line_cons, Report.text_line_nil,
    String.append_assoc]

/-- If the sum of the scores, each of any size, is at most `655361` in size, then the last
line of the report shows their exact mean, which two places are enough for. -/
theorem write_all_shows_exact_mean (sample : Sample)
    (small : |exactSum sample.scores.toList| ≤ 655361) (sink : Sink) :
    ((Part.all sample).write sink.boundless).result = .ok () ∧
      IsTwoPlaces (exactSum sample.scores.toList / 5)
        (fifthsText (exactSum sample.scores.toList)) ∧
      ∃ report, ((Part.all sample).write sink.boundless).sink.written.toList = bytesOf report ∧
        Report.IsLastLine ("Average Score: " ++ fifthsText (exactSum sample.scores.toList))
          report := by
  obtain ⟨finished, written⟩ := (Part.all sample).write_boundless sink
  have size : (exactSum sample.scores.toList).natAbs ≤ 655361 := by
    rw [Int.abs_eq_natAbs] at small
    exact_mod_cast small
  have shown := toHundredthsText_fifths (Report.mean_rounds (size.trans (by decide))) size
  obtain ⟨earlier, ends⟩ := text_all_ends sample
  rw [shown] at ends
  refine ⟨finished, isTwoPlaces_fifthsText _, _, written, ?_, earlier, ends⟩
  rw [String.toList_append, List.mem_append, not_or]
  exact ⟨by decide, (Report.isNumberText_fifthsText _).not_mem (by decide)⟩

theorem write_all_shows_exact_mean_of_cancelling :
    |exactSum #v[2147483647, -2147483648, -655361, 1, (0 : Int32)].toList| ≤ 655361 ∧
      ∃ report,
        ((Part.all { Sample.fixed with
            scores := #v[2147483647, -2147483648, -655361, 1, 0] }).write
          Sink.unlimited.boundless).sink.written.toList = bytesOf report ∧
        Report.IsLastLine "Average Score: -131072.20" report := by
  have small : |exactSum #v[2147483647, -2147483648, -655361, 1, (0 : Int32)].toList| ≤
      655361 := by decide
  obtain ⟨_, _, report, written, last⟩ := write_all_shows_exact_mean
    { Sample.fixed with scores := #v[2147483647, -2147483648, -655361, 1, 0] } small
    Sink.unlimited
  have shown : "Average Score: " ++ fifthsText
      (exactSum #v[2147483647, -2147483648, -655361, 1, (0 : Int32)].toList) =
        "Average Score: -131072.20" := by decide
  exact ⟨small, report, written, shown ▸ last⟩

example : (Binary32.ofInt 655362 / Binary32.ofInt 5).toHundredthsText = "131072.41" := by decide

end Part

end ScoreSheet
