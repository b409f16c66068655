import ScoreSheet.Proofs.Log.InsideSpan
import ScoreSheet.Proofs.Report.Announced
import ScoreSheet.Proofs.Session.Independence

/-!
What a session logs of its work is told by how far the work got.  A report logs nothing unless
everything before its average was written, and then both of its lines, whether or not the last
line of the report can be written as well.  The other parts log nothing, and an average that is
taken by itself logs at most that it is.
-/

namespace ScoreSheet

def Log.reportLine (log : Log) (event : Event) : String :=
  if log.filters.log.EnablesInside ⟨5⟩ event.callsite then
    event.line log.colouring (log.filters.shownSpan? (some ⟨5⟩))
  else ""

theorem Log.lines_report (log : Log) (average : Binary32) :
    log.lines (some ⟨5⟩) [.averaging 5, .averaged average] =
      log.reportLine (.averaging 5) ++ log.reportLine (.averaged average) := by
  have first : RenderSpan.callsite.level.rank ≤ (Event.averaging 5).callsite.level.rank := by decide
  have second : RenderSpan.callsite.level.rank ≤ (Event.averaged average).callsite.level.rank :=
    Nat.le_refl Level.debug.rank
  rw [lines_cons, log.lines_some ⟨5⟩ first, log.lines_some ⟨5⟩ second]
  rfl

namespace Session

section

variable {session : Session} {log : Log}

theorem step_write_all (isSet : session.log = some log) (sample : Sample) (sink : Sink) :
    (session.step (.write (.all sample) sink)).2.1 =
      if sink.HasRoom (Part.allBytes (Part.beforeAverage sample)).length then
        log.reportLine (.averaging 5) ++ log.reportLine (.averaged (Report.mean sample))
      else "" := by
  change session.logged (some ⟨sample.count⟩) ((Part.all sample).write sink).events = _
  rw [Part.write_all_events, sample.count_eq]
  by_cases enough : sink.HasRoom (Part.allBytes (Part.beforeAverage sample)).length
  · rw [if_pos enough, if_pos enough, logged, isSet]
    exact log.lines_report (Report.mean sample)
  · rw [if_neg enough, if_neg enough, logged_nil]

theorem step_write_of_not_all (session : Session) {part : Part}
    (notAll : ∀ sample, part ≠ .all sample) (sink : Sink) :
    (session.step (.write part sink)).2.1 = "" := by
  change session.logged part.span (part.write sink).events = ""
  rw [Part.write_events_of_not_all notAll, logged_nil]

theorem step_average (isSet : session.log = some log) (values : List Int32) :
    (session.step (.average values)).2.1 =
      if log.filters.log.Enables (Event.averaging values.length).callsite then
        Event.line log.colouring none (.averaging (values.length % 2 ^ 64))
      else "" := by
  have count : (Average.ofList values).count.toNat = values.length % 2 ^ 64 := by
    rw [Average.ofList, Average.count_extend]
    change (0 + UInt64.ofNat values.length).toNat = _
    rw [UInt64.zero_add, UInt64.toNat_ofNat']
  change session.logged none [.averaging (Average.ofList values).count.toNat] = _
  rw [count, logged, isSet]
  exact log.lines_none _

/-- What a session with a log logs of its work. Every report of which everything before the
average is written logs both of its lines, those that fail in their last line among them. A
length is logged as a count of 64 bits. -/
theorem step_logs_as_far_as_written (isSet : session.log = some log) :
    (∀ sample (sink : Sink), ∃ outcome,
      (session.step (.write (.all sample) sink)).1 = .written outcome ∧
        (outcome.result = .ok () ↔ sink.HasRoom (Part.all sample).bytes.length) ∧
        (Part.allBytes (Part.beforeAverage sample)).length < (Part.all sample).bytes.length ∧
        (session.step (.write (.all sample) sink)).2.1 =
          if sink.HasRoom (Part.allBytes (Part.beforeAverage sample)).length then
            log.reportLine (.averaging 5) ++ log.reportLine (.averaged (Report.mean sample))
          else "") ∧
      (∀ part sink, (∀ sample, part ≠ .all sample) →
        (session.step (.write part sink)).2.1 = "") ∧
      (∀ values, (session.step (.average values)).2.1 =
        if log.filters.log.Enables (Event.averaging values.length).callsite then
          Event.line log.colouring none (.averaging (values.length % 2 ^ 64))
        else "") ∧
      (session.step (.average [])).1 = .average (.error .emptySequence) := by
  refine ⟨?_, ?_, step_average isSet, rfl⟩
  · intro sample sink
    exact ⟨_, rfl, (Part.all sample).write_ok_iff sink, Part.length_beforeAverage_lt sample,
      step_write_all isSet sample sink⟩
  · intro part sink notAll
    exact session.step_write_of_not_all notAll sink

end

/-- The last line of the report is cut before its first byte, after both lines of the log; with
one byte less the last score is cut, and nothing is logged. -/
theorem step_logs_as_far_as_written_at_last_line :
    let log : Log := ⟨⟨.ofProgram .info, .ofProgram .trace⟩, .plain⟩
    let session : Session := { environment := {}, log := some log }
    let write : Nat → SessionStep := fun limit => .write (.all Sample.fixed) { limit := some limit }
    (∃ outcome, (session.step (write 145)).1 = .written outcome ∧ outcome.result ≠ .ok ()) ∧
      (session.step (write 145)).2.1 =
        "TRACE render\x7bcount=5\x7d: score_report::average: averaging… count=5\n" ++
          "DEBUG render\x7bcount=5\x7d: score_report::report: average=86.5999984741211\n" ∧
      (session.step (write 144)).2.1 = "" ∧ session.log = some log := by
  intro log session write
  have isSet : session.log = some log := rfl
  obtain ⟨written, _⟩ := step_logs_as_far_as_written isSet
  have before : (Part.allBytes (Part.beforeAverage Sample.fixed)).length = 145 := by
    rw [← Part.bytesOf_text_head]
    decide +kernel
  refine ⟨?_, ?_, ?_, isSet⟩
  · obtain ⟨outcome, answer, finished, shorter, _⟩ := written Sample.fixed { limit := some 145 }
    refine ⟨outcome, answer, fun all => ?_⟩
    have size := finished.mp all 145 rfl
    rw [before] at shorter
    omega
  · obtain ⟨_, _, _, _, logged⟩ := written Sample.fixed { limit := some 145 }
    rw [before] at logged
    exact logged.trans (by decide +kernel)
  · obtain ⟨_, _, _, _, logged⟩ := written Sample.fixed { limit := some 144 }
    rw [before] at logged
    exact logged.trans (by decide +kernel)

end Session
end ScoreSheet
