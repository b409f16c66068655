import ScoreSheet.Proofs.Log.LongestTarget
import ScoreSheet.Proofs.Session.Progress
import ScoreSheet.Proofs.Session.SetUpOnce

/-!
What a session logs of a report that is written in full, when the filter is a list of
plain directives.  Each of the two lines is decided by the directive that is selected for
its target.  The one that is selected for the report also decides whether the report's
span is shown, and with it what stands in front of both lines, which are written out here
in full.  A list in which one piece is no directive at all is not used.
-/

namespace ScoreSheet

theorem Filter.watches_of_no_dynamics {filter : Filter} (none : filter.dynamics = [])
    (callsite : Callsite) : filter.watches callsite = false := by
  rw [watches, spanDirectives, none]
  exact Bool.and_false _

theorem Filter.enablesInside_iff_of_no_dynamics {filter : Filter} (none : filter.dynamics = [])
    {span : RenderSpan} {callsite : Callsite} :
    filter.EnablesInside span callsite ↔ filter.Enables callsite := by
  have noDirectives : filter.spanDirectives RenderSpan.callsite = [] := by
    rw [spanDirectives, none]
    rfl
  rw [EnablesInside, noDirectives, or_iff_left]
  rintro ⟨directive, member, _⟩
  cases member

theorem Filters.shownSpan?_of_no_dynamics {filters : Filters} (none : filters.log.dynamics = [])
    (opened : Option RenderSpan) :
    filters.shownSpan? opened =
      if filters.log.Enables RenderSpan.callsite then opened else Option.none := by
  have shown := filters.shows_none_iff (filters.log.watches_of_no_dynamics none RenderSpan.callsite)
  unfold shownSpan?
  by_cases enables : filters.log.Enables RenderSpan.callsite
  · rw [if_pos enables, shown.mpr enables]
    cases opened <;> rfl
  · rw [if_neg enables, Bool.eq_false_iff.mpr fun shows => enables (shown.mp shows)]
    cases opened <;> rfl

/-! ### Lines of a report -/

open PlainDirective (Admits SameForTargets Selected listText)

def Environment.withLog (environment : Environment) (text : String) : Environment :=
  { environment with log := some text }

theorem PlainDirective.dynamics_ofPlain (directives : List PlainDirective) :
    (Filter.ofPlain directives).dynamics = [] := by
  apply List.filter_eq_nil_iff.mpr
  intro member present dynamic
  obtain ⟨directive, _, rfl⟩ := List.mem_map.mp present
  rw [directive.isDynamic_meaning] at dynamic
  cases dynamic

namespace Colouring

/-- The span of a report with five scores, as it stands in front of a line's target. -/
def reportSpan : Colouring → String
  | .plain => "render\x7bcount=5\x7d: "
  | .coloured =>
      "\x1b[1mrender\x1b[0m\x1b[1m\x7b\x1b[0m\x1b[3mcount\x1b[0m\x1b[2m=\x1b[0m5" ++
        "\x1b[1m\x7d\x1b[0m\x1b[2m:\x1b[0m "

/-- The line of an average that is going to be taken, with the span that is shown in it. -/
def averagingLine (span : String) : Colouring → String
  | .plain => "TRACE " ++ span ++ "score_report::average: averaging… count=5\n"
  | .coloured =>
      "\x1b[35mTRACE\x1b[0m " ++ span ++ "\x1b[2mscore_report::average\x1b[0m\x1b[2m:\x1b[0m " ++
        "averaging… \x1b[3mcount\x1b[0m\x1b[2m=\x1b[0m5\n"

def averagedLine (span average : String) : Colouring → String
  | .plain => "DEBUG " ++ span ++ "score_report::report: average=" ++ average ++ "\n"
  | .coloured =>
      "\x1b[34mDEBUG\x1b[0m " ++ span ++ "\x1b[2mscore_report::report\x1b[0m\x1b[2m:\x1b[0m " ++
        "\x1b[3maverage\x1b[0m\x1b[2m=\x1b[0m" ++ average ++ "\n"

end Colouring

theorem Event.line_averaging (colouring : Colouring) :
    Event.line colouring none (.averaging 5) = colouring.averagingLine "" ∧
      Event.line colouring (some ⟨5⟩) (.averaging 5) =
        colouring.averagingLine colouring.reportSpan := by
  cases colouring with
  | plain => exact ⟨rfl, rfl⟩
  | coloured => exact ⟨rfl, rfl⟩

theorem Event.line_averaged (colouring : Colouring) (average : Binary32) :
    Event.line colouring none (.averaged average) =
        colouring.averagedLine "" average.toShortestText ∧
      Event.line colouring (some ⟨5⟩) (.averaged average) =
        colouring.averagedLine colouring.reportSpan average.toShortestText := by
  cases colouring with
  | plain => exact ⟨rfl, rfl⟩
  | coloured => exact ⟨rfl, rfl⟩

/-- The lines that directives let a report have: one before the average is known and one
after it, both inside of the report's span if that is shown. -/
def reportLines (colouring : Colouring) (directives : List PlainDirective) (sample : Sample) :
    String :=
  let span := if Admits directives "score_report::report" .debug then colouring.reportSpan else ""
  (if Admits directives "score_report::average" .trace then colouring.averagingLine span
    else "") ++
    if Admits directives "score_report::report" .debug then
      colouring.averagedLine span (Report.mean sample).toShortestText
    else ""

theorem Log.reportLine_of_no_dynamics {log : Log} (none : log.filters.log.dynamics = [])
    (event : Event) :
    log.reportLine event =
      if log.filters.log.Enables event.callsite then
        event.line log.colouring (log.filters.shownSpan? (some ⟨5⟩))
      else "" :=
  if_congr (Filter.enablesInside_iff_of_no_dynamics none) rfl rfl

theorem Log.lines_ofPlain {log : Log} {directives : List PlainDirective}
    (plain : log.filters.log = Filter.ofPlain directives) (sample : Sample) :
    log.lines (some ⟨5⟩) [.averaging 5, .averaged (Report.mean sample)] =
      reportLines log.colouring directives sample := by
  have none : log.filters.log.dynamics = [] := by
    rw [plain, PlainDirective.dynamics_ofPlain]
  have enables : ∀ callsite, log.filters.log.Enables callsite ↔
      Admits directives callsite.target callsite.level := by
    intro callsite
    rw [plain]
    exact PlainDirective.enables_ofPlain_iff directives callsite
  have span : log.filters.log.Enables RenderSpan.callsite ↔
      Admits directives "score_report::report" .debug := enables _
  have averaging : log.filters.log.Enables (Event.averaging 5).callsite ↔
      Admits directives "score_report::average" .trace := enables _
  have averaged : log.filters.log.Enables (Event.averaged (Report.mean sample)).callsite ↔
      Admits directives "score_report::report" .debug := enables _
  rw [lines_report, reportLine_of_no_dynamics none, reportLine_of_no_dynamics none,
    Filters.shownSpan?_of_no_dynamics none]
  simp only [span, averaging, averaged, reportLines]
  obtain ⟨averagingLine, averagingInSpan⟩ := Event.line_averaging log.colouring
  obtain ⟨_, averagedInSpan⟩ := Event.line_averaged log.colouring (Report.mean sample)
  by_cases shown : Admits directives "score_report::report" .debug
  · simp only [if_pos shown, averagingInSpan, averagedInSpan]
  · simp only [if_neg shown, averagingLine]

namespace Session

section

variable {session : Session} {log : Log} {sink : Sink}

theorem logged_report (isSet : session.log = some log) (sample : Sample)
    (unlimited : sink.limit = none) :
    (session.step (.write (.all sample) sink)).2.1 =
      log.lines (some ⟨5⟩) [.averaging 5, .averaged (Report.mean sample)] := by
  have enough : sink.HasRoom (Part.allBytes (Part.beforeAverage sample)).length := by
    intro room member
    rw [Sink.room, unlimited] at member
    cases member
  rw [step_write_all isSet, if_pos enough, log.lines_report]

variable {environment : Environment} {before : List SessionStep} {directives : List PlainDirective}

theorem reached_withLog_listText {collector : Filter}
    (readCollector : Filter.ofVariable environment.collectorLog .info = .ok collector)
    (setUp : ∃ earlier ∈ before, earlier.SetsUp) :
    (reached (environment.withLog (listText directives)) before).log ≠ none := by
  have listed := Filter.ofVariable_listText directives .warn
  have read : Log.ofEnvironment (environment.withLog (listText directives)) =
      .ok ⟨⟨collector, Filter.ofPlain directives⟩, environment.colouring⟩ :=
    Log.ofEnvironment_of_filters readCollector listed
  rw [reached_of_setsUp read setUp]
  exact Option.some_ne_none _

theorem step_withLog_listText (sample : Sample) (unlimited : sink.limit = none)
    (isSet : (reached (environment.withLog (listText directives)) before).log ≠ none) :
    ((reached (environment.withLog (listText directives)) before).step
        (.write (.all sample) sink)).2.1 =
      reportLines environment.colouring directives sample := by
  obtain ⟨log, read, present⟩ := exists_log_of_reached isSet
  obtain ⟨readFilter, colouring⟩ := Log.ofEnvironment_ok read
  have plain : Filter.ofPlain directives = log.filters.log := by
    change Filter.ofVariable (some (listText directives)) .warn = _ at readFilter
    rw [Filter.ofVariable_listText] at readFilter
    exact Except.ok.inj readFilter
  rw [logged_report present sample unlimited, Log.lines_ofPlain plain.symm, colouring]
  rfl

theorem lines_ofProgram {log : Log} (own : log.filters.log = Filter.ofProgram .warn)
    (sample : Sample) :
    log.lines (some ⟨5⟩) [.averaging 5, .averaged (Report.mean sample)] = "" := by
  have none : log.filters.log.dynamics = [] := by
    rw [own]
    rfl
  have first : ¬ (Filter.ofProgram .warn).Enables (Event.averaging 5).callsite := by decide
  have second : ¬ (Filter.ofProgram .warn).Enables
      (Event.averaged (Report.mean sample)).callsite := by
    change ¬ (Filter.ofProgram .warn).Enables ⟨reportTarget, .debug, Option.none, ["average"]⟩
    decide
  rw [log.lines_report, Log.reportLine_of_no_dynamics none, Log.reportLine_of_no_dynamics none,
    own, if_neg first, if_neg second]
  rfl

end

/-- What a report logs once the log is set up with a list of plain directives. The order of
directives for different targets does not matter, and such a list never keeps the log from
being set up. With a piece that is no directive, the filter is the one of no variable, and
a report logs nothing. -/
theorem step_logs_selected_lines (environment : Environment) (before : List SessionStep) :
    (∀ directives sample (sink : Sink), sink.limit = none →
      (reached (environment.withLog (listText directives)) before).log ≠ none →
        ((reached (environment.withLog (listText directives)) before).step
            (.write (.all sample) sink)).2.1 =
          reportLines environment.colouring directives sample) ∧
      (∀ directives collector,
        Filter.ofVariable environment.collectorLog .info = .ok collector →
          (∃ earlier ∈ before, earlier.SetsUp) →
            (reached (environment.withLog (listText directives)) before).log ≠ none) ∧
      (∀ directives, Admits directives "score_report::average" .trace ↔
        ∃ directive, Selected directives "score_report::average" directive ∧
          directive.threshold = .upTo .trace) ∧
      (∀ directives others, SameForTargets directives others → ∀ colouring sample,
        reportLines colouring directives sample = reportLines colouring others sample) ∧
      ∀ text piece log, piece ∈ splitOnChar ',' text.toList → piece ≠ [] →
        (∀ directive, Directive.read piece ≠ .ok directive) →
          (reached (environment.withLog text) before).log = some log →
            log.filters.log = Filter.ofProgram .warn ∧
              ∀ sample (sink : Sink), sink.limit = none →
                ((reached (environment.withLog text) before).step
                  (.write (.all sample) sink)).2.1 = "" := by
  refine ⟨?_, ?_, ?_, ?_, ?_⟩
  · intro directives sample sink unlimited isSet
    exact step_withLog_listText sample unlimited isSet
  · intro directives collector readCollector setUp
    exact reached_withLog_listText readCollector setUp
  · intro directives
    exact PlainDirective.admits_trace_iff directives _
  · intro directives others same colouring sample
    simp only [reportLines, same.admits_iff]
  · intro text piece log member nonempty unread present
    obtain ⟨own, read, same⟩ := exists_log_of_reached (by rw [present]; exact Option.some_ne_none _)
    rw [present] at same
    cases same
    have fallback := Filter.ofVariable_of_malformed member nonempty unread
      (Log.ofEnvironment_ok read).1
    refine ⟨fallback, ?_⟩
    intro sample sink unlimited
    rw [logged_report present sample unlimited, lines_ofProgram fallback]

/-- The later of two directives for the report has it logged, with its span in both lines. A
list that lets only the average pass has no span, and one with a piece that gives no level
leaves nothing. -/
theorem step_logs_selected_lines_of_texts :
    let environment : Environment := { noColour := some "1" }
    let logged : String → String := fun text =>
      ((reached (environment.withLog text) [.setUpLog none ⟨0x3f800000⟩]).step
        (.write (.all Sample.fixed) {})).2.1
    logged "trace,score_report::report=off,score_report::report=debug" =
        "TRACE render\x7bcount=5\x7d: score_report::average: averaging… count=5\n" ++
          "DEBUG render\x7bcount=5\x7d: score_report::report: average=86.5999984741211\n" ∧
      logged "score_report=trace,score_report::report=info" =
        "TRACE score_report::average: averaging… count=5\n" ∧
      logged "trace,score_report=loud" = "" := by
  intro environment logged
  obtain ⟨lines, setsUp, _, _, fallback⟩ :=
    step_logs_selected_lines environment [.setUpLog none ⟨0x3f800000⟩]
  have text : (Report.mean Sample.fixed).toShortestText = "86.5999984741211" := by decide +kernel
  have setUp : ∃ earlier ∈ [SessionStep.setUpLog none ⟨0x3f800000⟩], earlier.SetsUp :=
    ⟨_, List.mem_singleton_self _, fun _ given => by cases given⟩
  have listed : ∀ directives text, listText directives = text →
      logged text = reportLines .plain directives Sample.fixed := by
    rintro directives _ rfl
    exact lines directives Sample.fixed {} rfl (setsUp directives _ rfl setUp)
  have unread : (Directive.read "score_report=loud".toList).isOk = false := by decide +kernel
  refine ⟨?_, ?_, ?_⟩
  · rw [listed [.ofTexts "" "trace" (by decide), .ofTexts "score_report::report" "off" (by decide),
      .ofTexts "score_report::report" "debug" (by decide)] _ (by decide +kernel), reportLines, text]
    decide +kernel
  · rw [listed [.ofTexts "score_report" "trace" (by decide),
      .ofTexts "score_report::report" "info" (by decide)] _ (by decide +kernel), reportLines, text]
    decide +kernel
  · refine (fallback "trace,score_report=loud" "score_report=loud".toList
      ⟨⟨.ofProgram .info, .ofProgram .warn⟩, .plain⟩ (by decide +kernel) (by decide +kernel) ?_
      (by decide +kernel)).2 Sample.fixed {} rfl
    intro directive read
    rw [read] at unread
    cases unread

end Session
end ScoreSheet
