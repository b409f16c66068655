import ScoreSheet.Proofs.Average.Size
import ScoreSheet.Proofs.Decimal.ShortestText
import ScoreSheet.Proofs.Report.ExactMean
import ScoreSheet.Proofs.Session.Progress

/-!
What a session logs of an average tells it exactly.  A mean of five scores is zero or between a
tenth and `2 ^ 31`, so that it is written without a power of ten: as the decimal with the fewest
digits that gives the mean again.
-/

namespace ScoreSheet
namespace Report

theorem mean_isScientific (sample : Sample) : (mean sample).isScientific = false := by
  have rounded := rounded_mean sample
  have size := rounded.abs_average_le
  apply Binary32.isScientific_eq_false
  · linarith
  · by_cases zero : exactSum sample.scores.toList = 0
    · exact Or.inl (rounded.eq_zero zero)
    · have least := rounded.length_le_abs_average zero
      rw [length_scores] at least
      norm_num at least
      exact Or.inr (by linarith)

end Report

def Event.lineStart (colouring : Colouring) (shownSpan : Option RenderSpan)
    (callsite : Callsite) : String :=
  callsite.level.label colouring ++ " " ++ shownSpan.elim "" (RenderSpan.label colouring) ++
    colouring.faint callsite.target ++ colouring.faint ":" ++ " "

theorem Event.line_eq (colouring : Colouring) (shownSpan : Option RenderSpan) (event : Event) :
    event.line colouring shownSpan =
      Event.lineStart colouring shownSpan event.callsite ++ event.text colouring ++ "\n" := by
  cases shownSpan with
  | none => rfl
  | some span => rfl

/-- What stands in front of an average in its line is the same for every average. -/
theorem Log.exists_reportLine_averaged (log : Log) :
    ∃ before, ∀ average, log.filters.log.EnablesInside ⟨5⟩ (Event.averaged average).callsite →
      log.reportLine (.averaged average) =
        before ++ log.colouring.field "average" average.toShortestText ++ "\n" := by
  refine ⟨Event.lineStart log.colouring (log.filters.shownSpan? (some ⟨5⟩))
    ⟨reportTarget, .debug, none, ["average"]⟩, ?_⟩
  intro average enabled
  rw [reportLine, if_pos enabled, Event.line_eq]
  rfl

namespace Session

/-- What a session with a log logs of the average of a report, if the log lets it pass: after the
name of the field a plain decimal that tells the average, with the fewest digits that do.  So two
samples are logged with the same text only if they have the same average. -/
theorem step_logs_average_exactly {session : Session} {log : Log}
    (isSet : session.log = some log) :
    (∃ before, ∀ sample (sink : Sink),
      log.filters.log.EnablesInside ⟨5⟩ (Event.averaged (Report.mean sample)).callsite →
        sink.HasRoom (Part.allBytes (Part.beforeAverage sample)).length →
          (session.step (.write (.all sample) sink)).2.1 =
            before ++ log.colouring.field "average" (Report.mean sample).toShortestText ++ "\n") ∧
      (∀ sample, (Report.averageOf sample.scores.toList).2 = .ok (Report.mean sample) ∧
        ∃ size code, Tells (Report.mean sample) size code (Report.mean sample).toShortestText) ∧
      ∀ sample other, (Report.mean sample).toShortestText = (Report.mean other).toShortestText ↔
        (Report.mean sample).bits = (Report.mean other).bits := by
  refine ⟨?_, ?_, ?_⟩
  · obtain ⟨before, line⟩ := log.exists_reportLine_averaged
    refine ⟨log.reportLine (.averaging 5) ++ before, ?_⟩
    intro sample sink enabled enough
    rw [step_write_all isSet, if_pos enough, line _ enabled]
    simp only [String.append_assoc]
  · intro sample
    exact ⟨Report.averageOf_scores sample, _, _, Binary32.tells_toShortestText
      (Report.mean_isFinite sample) (Report.mean_isScientific sample)⟩
  · intro sample other
    rw [Binary32.toShortestText_inj (Report.mean_isFinite sample) (Report.mean_isFinite other)
      (Report.mean_isScientific sample) (Report.mean_isScientific other)]
    exact ⟨congrArg Binary32.bits, Binary32.eq_of_bits⟩

/-- Fifteen digits tell an average that is not a short decimal, and a larger average has
another text. -/
theorem step_logs_average_exactly_of_fixed :
    let log : Log := ⟨⟨.ofProgram .info, .ofProgram .debug⟩, .plain⟩
    let session : Session := { environment := {}, log := some log }
    let other : Sample := { Sample.fixed with scores := #v[90, 85, 78, 92, 89] }
    session.log = some log ∧
      (∃ before, (session.step (.write (.all Sample.fixed) {})).2.1 =
        before ++ "average=86.5999984741211" ++ "\n") ∧
      (∃ size code, Tells (Report.mean Sample.fixed) size code "86.5999984741211") ∧
      (Report.mean Sample.fixed).toShortestText ≠ (Report.mean other).toShortestText := by
  intro log session other
  have isSet : session.log = some log := rfl
  have text : (Report.mean Sample.fixed).toShortestText = "86.5999984741211" := by decide +kernel
  obtain ⟨⟨before, lines⟩, tells, same⟩ := step_logs_average_exactly isSet
  refine ⟨isSet, ⟨before, ?_⟩, ?_, ?_⟩
  · have line := lines Sample.fixed {} (by decide +kernel) nofun
    rw [text] at line
    exact line
  · rw [← text]
    exact (tells Sample.fixed).2
  · rw [ne_eq, same Sample.fixed other]
    decide +kernel

end Session
end ScoreSheet
