import ScoreSheet.Proofs.Log.Passing
import ScoreSheet.Proofs.Report.Announced
import ScoreSheet.Proofs.Run.Ending

/-!
How a run ends whose standard output cannot be written.  The first line of the report
fails before anything is averaged, the span of the report is closed, and the cause is
told twice: to the log, whose filter may drop it, and then to the error output whatever
the filter is.
-/

namespace ScoreSheet

namespace Run

def enabledLine (filter : Filter) (colouring : Colouring) (event : Event) : String :=
  if filter.Enables event.callsite then event.line colouring none else ""

/-- What is promised of a run that cannot write its report. -/
structure TellsFailure (environment : Environment) (cause : String) (result : RunResult) :
    Prop where
  exitCode_eq : result.exitCode = 1
  stdout_eq : result.stdout = []
  stderr_eq : ∃ filter, Filter.ofVariable environment.log .warn = .ok filter ∧
    result.stderr =
      enabledLine filter environment.colouring .starting ++
        enabledLine filter environment.colouring (.printFailed cause) ++
        "Error: " ++ cause ++ "\n"

section

variable (cause : String)

theorem not_hasRoom_failing {size : Nat} (positive : 0 < size) :
    ¬ (Stdout.failing cause).sink.HasRoom size := by
  intro enough
  have le : size ≤ 0 := enough 0 rfl
  omega

theorem write_failing_events :
    ((Part.all Sample.fixed).write (Stdout.failing cause).sink).events = [] := by
  have some : 0 < (Part.allBytes (Part.beforeAverage Sample.fixed)).length := by
    rw [← Part.bytesOf_text_head]
    decide +kernel
  rw [Part.write_all_events, if_neg (not_hasRoom_failing cause some)]

/-- The error of the report is the output's own one. -/
theorem write_failing :
    ((Part.all Sample.fixed).write (Stdout.failing cause).sink).result =
        .error (.write (Stdout.failing cause).sink.fullError) ∧
      (Stdout.failing cause).sink.fullError.message = cause ∧
      ((Part.all Sample.fixed).write (Stdout.failing cause).sink).sink.written.toList = [] := by
  have bytes : (Part.all Sample.fixed).bytes = bytesOf reportText := by
    rw [Part.bytes_eq, text_fixed]
  refine ⟨?_, rfl, ?_⟩
  · rw [Part.write_result, bytes, if_neg (not_hasRoom_failing cause (by decide +kernel))]
  · rw [((Part.all Sample.fixed).write_adds (Stdout.failing cause).sink).written_eq]
    change [] ++ (Part.all Sample.fixed).bytes.take (min 0 _) = []
    rw [Nat.zero_min]
    rfl

theorem print_failing (log : Log) :
    print log (.failing cause) =
      .exited 1 []
        (enabledLine log.filters.log log.colouring .starting ++
          enabledLine log.filters.log log.colouring (.printFailed cause) ++
          "Error: " ++ cause ++ "\n") := by
  obtain ⟨failed, told, nothing⟩ := write_failing cause
  rw [print]
  simp only [failed, told, nothing, write_failing_events, ReportError.message, Log.lines_nil,
    Log.lines_none, String.append_empty]
  rfl

example : Event.line .plain none (.printFailed cause) =
    "ERROR score_report: failed to print the report: " ++ cause ++ "\n" := rfl

end

/-- A run that cannot write its report tells so exactly if no filter is cut inside a
character; the average is not reached, so that nothing of it can be in the log. -/
theorem outcome_tells_failure {environment : Environment} {words : List String}
    {options : Options} (read : Options.read environment words = .ok options)
    (noAddress : options.address = none ∨ options.address = some "") (cause : String) :
    (TellsFailure environment cause (outcome environment words (.failing cause)) ↔
        ∀ split, ¬ Splits environment words split) ∧
      (∀ split, Splits environment words split →
        outcome environment words (.failing cause) = .stopped (.splitCharacter split)) ∧
      (IsPlainSetting environment.collectorLog → IsPlainSetting environment.log →
        TellsFailure environment cause (outcome environment words (.failing cause))) ∧
      ((Part.all Sample.fixed).write (Stdout.failing cause).sink).events = [] := by
  have fits : AddressFits options.address := by
    intro text given nonempty
    rcases noAddress with none | empty
    · rw [none] at given
      cases given
    · rw [empty] at given
      cases given
      exact absurd rfl nonempty
  have tells : (∀ split, ¬ Splits environment words split) →
      TellsFailure environment cause (outcome environment words (.failing cause)) := by
    intro unsplit
    rcases outcome_of_fits read fits (.failing cause) with
      ⟨split, unread, _⟩ | ⟨log, readLog, printed⟩
    · exact absurd ⟨options, read, fits, unread⟩ (unsplit split)
    · obtain ⟨readFilter, colouring⟩ := Log.ofEnvironment_ok readLog
      rw [printed, print_failing]
      refine ⟨rfl, rfl, log.filters.log, readFilter, ?_⟩
      rw [Environment.colouring, ← colouring]
      rfl
  refine ⟨⟨?_, tells⟩, fun split splits => outcome_of_splits splits _, ?_,
    write_failing_events cause⟩
  · intro tells split splits
    have code := tells.exitCode_eq
    rw [outcome_of_splits splits] at code
    cases code
  · intro plainCollector plainLog
    exact tells (not_splits_of_plain plainCollector plainLog)

/-- A log that lets everything of the program pass, on a device that is full. -/
theorem outcome_tells_failure_on_full_device :
    Options.read { log := some "info", noColour := some "1" } [] = .ok ⟨none, ⟨1036831949⟩⟩ ∧
      (outcome { log := some "info", noColour := some "1" } [] .full).exitCode = 1 ∧
      (outcome { log := some "info", noColour := some "1" } [] .full).stdout = [] ∧
      (outcome { log := some "info", noColour := some "1" } [] .full).stderr =
        " INFO score_report: starting… version=\"0.0.0\"\n" ++
          "ERROR score_report: failed to print the report: " ++
          "No space left on device (os error 28)\n" ++
          "Error: No space left on device (os error 28)\n" := by
  have read : Options.read { log := some "info", noColour := some "1" } [] =
      .ok ⟨none, ⟨1036831949⟩⟩ := by
    decide +kernel
  have readable : (Log.ofEnvironment { log := some "info", noColour := some "1" }).isOk = true := by
    decide +kernel
  have tells := (outcome_tells_failure read (Or.inl rfl)
    "No space left on device (os error 28)").1.mpr (by
      rintro split ⟨options, _, _, unread⟩
      rw [unread] at readable
      cases readable)
  obtain ⟨filter, readFilter, stderr⟩ := tells.stderr_eq
  cases readFilter
  exact ⟨read, tells.exitCode_eq, tells.stdout_eq, stderr.trans (by decide +kernel)⟩

/-- A blank in front of the collector's filter hides that the report was not printed. -/
theorem outcome_not_tells_failure_after_blank :
    ¬ TellsFailure { collectorLog := some " xé=info" } "No space left on device (os error 28)"
      (outcome { collectorLog := some " xé=info" } [] .full) := by
  intro tells
  have stopped : outcome { collectorLog := some " xé=info" } [] .full =
      .stopped (.splitCharacter ⟨.stop, 3, 'é', 2⟩) := by
    decide +kernel
  have code := tells.exitCode_eq
  rw [stopped] at code
  cases code

end Run
end ScoreSheet
