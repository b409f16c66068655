import ScoreSheet.Session

/-!
A log does not change what a session does.  The process that writes its log while it
works is told apart from the session, whose steps give their events to the log when
they are done; both give the same answers and leave the same log.  Steps that set up
the log can then be put in and left out without changing any other answer.
-/

namespace ScoreSheet

/-- A process at work. What is on its error output and the span that is open are known
to every action. -/
structure Process where
  session : Session
  opened : Option RenderSpan := none
  errorOutput : String := ""

namespace Process

def announce (process : Process) (event : Event) : Process :=
  { process with
    errorOutput := process.errorOutput ++ process.session.logged process.opened [event] }

/-- Performs actions, each event going to the log before the next action. -/
def perform (process : Process) (sink : Sink) : List Action → Outcome × Process
  | [] => (⟨.ok (), [], sink⟩, process)
  | .write piece :: rest =>
      match sink.writeAll piece.toUTF8.data.toList with
      | (.ok (), next) => process.perform next rest
      | (.error error, next) => (⟨.error (.write error), [], next⟩, process)
  | .announce event :: rest =>
      let (outcome, next) := (process.announce event).perform sink rest
      ({ outcome with events := event :: outcome.events }, next)
  | .fail error :: _ => (⟨.error (.average error), [], sink⟩, process)

def write (process : Process) (part : Part) (sink : Sink) : Outcome × Process :=
  let entered := { process with opened := part.span.or process.opened }
  let (outcome, left) := entered.perform sink part.actions
  (outcome, { left with opened := process.opened })

def step (process : Process) : SessionStep → SessionAnswer × Process
  | .setUpLog address sampleRate =>
      let (answer, session) := process.session.setUpLog address sampleRate
      (answer, { process with session })
  | .average values =>
      let (announcement, result) := Report.averageOf values
      (.average result, process.announce announcement)
  | .write part sink =>
      let (outcome, next) := process.write part sink
      (.written outcome, next)

def run (process : Process) : List SessionStep → List SessionAnswer × Process
  | [] => ([], process)
  | first :: rest =>
      let (answer, next) := process.step first
      let (answers, last) := next.run rest
      (answer :: answers, last)

end Process

theorem Log.lines_cons (log : Log) (opened : Option RenderSpan) (event : Event)
    (rest : List Event) :
    log.lines opened (event :: rest) = log.lines opened [event] ++ log.lines opened rest := by
  by_cases shows : log.filters.showsEvent opened event = true
  · simp only [lines, List.filter_cons_of_pos shows, List.filter_nil, List.map_cons,
      List.map_nil, String.join_cons, String.join_nil, String.append_empty]
  · simp only [lines, List.filter_cons_of_neg shows, List.filter_nil, List.map_nil,
      String.join_nil, String.empty_append]

namespace Session

theorem logged_nil (session : Session) (opened : Option RenderSpan) :
    session.logged opened [] = "" := by
  unfold logged
  cases session.log with
  | none => rfl
  | some log => rfl

theorem logged_cons (session : Session) (opened : Option RenderSpan) (event : Event)
    (rest : List Event) :
    session.logged opened (event :: rest) =
      session.logged opened [event] ++ session.logged opened rest := by
  unfold logged
  cases session.log with
  | none => rfl
  | some log => exact log.lines_cons opened event rest

theorem run_cons (session : Session) (first : SessionStep) (rest : List SessionStep) :
    session.run (first :: rest) =
      ((session.step first).1, (session.step first).2.1) ::
        (session.step first).2.2.run rest := rfl

end Session

namespace Process

def adding (process : Process) (text : String) : Process :=
  { process with errorOutput := process.errorOutput ++ text }

theorem perform_eq (process : Process) (sink : Sink) (actions : List Action) :
    process.perform sink actions =
      (Action.perform sink actions,
        process.adding
          (process.session.logged process.opened (Action.perform sink actions).events)) := by
  have nothing : ∀ process : Process,
      process.adding (process.session.logged process.opened []) = process := by
    intro process
    rw [Session.logged_nil, adding, String.append_empty]
  fun_induction Action.perform sink actions generalizing process with
  | case1 sink => rw [perform, nothing]
  | case2 sink piece rest next written ih =>
      rw [perform]
      simp only [written]
      exact ih process
  | case3 sink piece rest error next failed =>
      rw [perform]
      simp only [failed, nothing]
  | case4 sink event rest outcome ih =>
      rw [perform, ih (process.announce event)]
      simp only [announce, adding]
      rw [String.append_assoc, ← Session.logged_cons]
  | case5 sink error rest => rw [perform, nothing]

theorem write_eq {process : Process} (atRest : process.opened = none) (part : Part)
    (sink : Sink) :
    process.write part sink =
      (part.write sink,
        process.adding (process.session.logged part.span (part.write sink).events)) := by
  rw [write, perform_eq, atRest, Option.or_none]
  simp only [adding, atRest]
  rfl

theorem step_eq {process : Process} (atRest : process.opened = none) (step : SessionStep) :
    process.step step =
      ((process.session.step step).1,
        { process.adding (process.session.step step).2.1 with
          session := (process.session.step step).2.2 }) := by
  cases step with
  | setUpLog address sampleRate =>
      simp only [Process.step, Session.step, adding, String.append_empty]
  | average values =>
      simp only [Process.step, Session.step, adding, announce, atRest]
  | write part sink =>
      simp only [Process.step, Session.step, write_eq atRest]
      rfl

theorem run_eq {process : Process} (atRest : process.opened = none) (steps : List SessionStep) :
    (process.run steps).1 = (process.session.run steps).map (·.1) ∧
      (process.run steps).2.errorOutput =
        process.errorOutput ++ String.join ((process.session.run steps).map (·.2)) := by
  induction steps generalizing process with
  | nil => exact ⟨rfl, (String.append_empty).symm⟩
  | cons first rest ih =>
      have next := step_eq atRest first
      obtain ⟨answers, errors⟩ := @ih (process.step first).2 (by rw [next]; exact atRest)
      rw [next] at answers errors
      simp only [run, Session.run_cons, List.map_cons, String.join_cons, next]
      constructor
      · rw [answers]
      · rw [errors, adding, String.append_assoc]

end Process

/-! ### Steps that do not set up the log -/

def SessionStep.isWork : SessionStep → Bool
  | .setUpLog _ _ => false
  | .average _ => true
  | .write _ _ => true

namespace Session

def workAnswers (session : Session) (steps : List SessionStep) : List SessionAnswer :=
  ((steps.zip (session.run steps)).filter (·.1.isWork)).map (·.2.1)

theorem step_of_isWork {step : SessionStep} (work : step.isWork = true)
    (session other : Session) :
    (session.step step).1 = (other.step step).1 ∧ (session.step step).2.2 = session := by
  cases step with
  | setUpLog address sampleRate => cases work
  | average values => exact ⟨rfl, rfl⟩
  | write part sink => exact ⟨rfl, rfl⟩

theorem step_unlogged {step : SessionStep} (work : step.isWork = true)
    {session : Session} (unset : session.log = none) : (session.step step).2.1 = "" := by
  have nothing : ∀ opened events, session.logged opened events = "" := by
    intro opened events
    rw [logged, unset]
  cases step with
  | setUpLog address sampleRate => cases work
  | average values => exact nothing none _
  | write part sink => exact nothing part.span _

theorem workAnswers_cons_of_isWork (session : Session) {first : SessionStep}
    (work : first.isWork = true) (rest : List SessionStep) :
    session.workAnswers (first :: rest) =
      (session.step first).1 :: session.workAnswers rest := by
  have kept := (step_of_isWork work session session).2
  rw [workAnswers, run_cons, List.zip_cons_cons, List.filter_cons, if_pos work, kept]
  rfl

theorem workAnswers_cons_of_not_isWork (session : Session) {first : SessionStep}
    (noWork : ¬ first.isWork = true) (rest : List SessionStep) :
    session.workAnswers (first :: rest) = (session.step first).2.2.workAnswers rest := by
  rw [workAnswers, run_cons, List.zip_cons_cons, List.filter_cons, if_neg noWork]
  rfl

theorem workAnswers_eq (session other : Session) (steps : List SessionStep) :
    session.workAnswers steps = (other.run (steps.filter SessionStep.isWork)).map (·.1) := by
  induction steps generalizing session with
  | nil => rfl
  | cons first rest ih =>
      by_cases work : first.isWork = true
      · obtain ⟨answer, kept⟩ := step_of_isWork work other session
        rw [workAnswers_cons_of_isWork session work, List.filter_cons_of_pos work,
          run_cons, List.map_cons, kept, ← answer, ih session]
      · rw [workAnswers_cons_of_not_isWork session work, List.filter_cons_of_neg work]
        exact ih _

theorem run_unlogged {session : Session} (unset : session.log = none)
    {steps : List SessionStep} (works : ∀ step ∈ steps, step.isWork = true) :
    ∀ given ∈ session.run steps, given.2 = "" := by
  induction steps with
  | nil => exact fun given none => absurd none List.not_mem_nil
  | cons first rest ih =>
      have work := works first List.mem_cons_self
      have kept := (step_of_isWork work session session).2
      intro given member
      rw [run_cons, kept] at member
      rcases List.mem_cons.mp member with head | tail
      · rw [head]
        exact step_unlogged work unset
      · exact ih (fun step within => works step (List.mem_cons_of_mem first within)) given tail

/-- Two sessions that take the same steps, but for the setting up of their logs, answer
them alike, and as a session does that never has a log. The answers and the log are those
of the process that writes its log while it works. -/
theorem workAnswers_independent_of_log {steps others : List SessionStep}
    (same : steps.filter SessionStep.isWork = others.filter SessionStep.isWork)
    (session other : Session) (environment : Environment) :
    session.workAnswers steps = other.workAnswers others ∧
      session.workAnswers steps =
        (({ environment } : Session).run (steps.filter SessionStep.isWork)).map (·.1) ∧
      (∀ given ∈ ({ environment } : Session).run (steps.filter SessionStep.isWork),
        given.2 = "") ∧
      (({ session } : Process).run steps).1 = (session.run steps).map (·.1) ∧
      (({ session } : Process).run steps).2.errorOutput =
        String.join ((session.run steps).map (·.2)) := by
  have apart := session.workAnswers_eq { environment } steps
  have otherApart := other.workAnswers_eq { environment } others
  have works : ∀ step ∈ steps.filter SessionStep.isWork, step.isWork = true := by
    intro step member
    exact (List.mem_filter.mp member).2
  have atRest : ({ session } : Process).opened = none := rfl
  obtain ⟨answers, errors⟩ := Process.run_eq atRest steps
  refine ⟨?_, apart, run_unlogged rfl works, answers, ?_⟩
  · rw [apart, otherApart, same]
  · rw [errors, String.empty_append]

theorem workAnswers_independent_of_full_log :
    let session : Session := { environment := { log := some "trace", noColour := some "1" } }
    let other : Session := { environment := {} }
    let write : SessionStep := .write (.all Sample.fixed) { limit := some 8 }
    let steps : List SessionStep :=
      [.setUpLog none ⟨0⟩, .average [1, 2], .setUpLog (some "?") ⟨0⟩, write, .setUpLog none ⟨0⟩]
    session.workAnswers steps = other.workAnswers [.average [1, 2], write] ∧
      ((session.run steps)[1]?).map (·.2) =
        some "TRACE score_report::average: averaging… count=2\n" ∧
      ((other.run [.average [1, 2], write])[0]?).map (·.2) = some "" := by
  intro session other write steps
  have same : steps.filter SessionStep.isWork =
      [.average [1, 2], write].filter SessionStep.isWork := rfl
  obtain ⟨alike, _⟩ := workAnswers_independent_of_log same session other {}
  exact ⟨alike, by decide +kernel, by decide +kernel⟩

end Session
end ScoreSheet
