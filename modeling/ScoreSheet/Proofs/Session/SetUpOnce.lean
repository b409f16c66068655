import ScoreSheet.Proofs.Log.Cuts
import ScoreSheet.Proofs.Log.SetUp
import ScoreSheet.Proofs.Session.Independence

/-!
A session sets up its log at most once.  Before that it logs nothing, and after it what a
step logs is told by the step and the environment alone: a log that is set up stays, and
what stops the setting up leaves the session as it was.  Setting up the log at an address
that fits succeeds the first time, unless a filter is cut inside a character; then it
never does.
-/

namespace ScoreSheet

/-- A step that sets up the log, with no address, an empty one or one of a collector. -/
def SessionStep.SetsUp : SessionStep → Prop
  | .setUpLog address _ => AddressFits address
  | .average _ => False
  | .write _ _ => False

namespace Session

def after (session : Session) (steps : List SessionStep) : Session :=
  steps.foldl (fun session step => (session.step step).2.2) session

theorem after_cons (session : Session) (first : SessionStep) (rest : List SessionStep) :
    session.after (first :: rest) = (session.step first).2.2.after rest := rfl

/-- What a step of a run answers and logs is told by the session it is taken in. -/
theorem run_getElem?_middle (session : Session) (before : List SessionStep) (step : SessionStep)
    (later : List SessionStep) :
    (session.run (before ++ step :: later))[before.length]? =
      some (((session.after before).step step).1, ((session.after before).step step).2.1) := by
  induction before generalizing session with
  | nil => rfl
  | cons first rest ih =>
      rw [List.cons_append, run_cons, List.length_cons, List.getElem?_cons_succ, ih, after_cons]

section

variable {session : Session} {log : Log} {address : Option String} {step : SessionStep}

theorem step_of_not_fits (bad : ¬ AddressFits address) (sampleRate : Binary32) :
    ∃ error, session.step (.setUpLog address sampleRate) =
      (.stopped (.badAddress error), "", session) := by
  obtain ⟨error, stopped⟩ := setUp_of_not_fits session.environment bad
  exact ⟨error, by rw [step, setUpLog, stopped]⟩

theorem step_of_unread {split : SplitCharacter} (fits : AddressFits address)
    (unread : Log.ofEnvironment session.environment = .error split) (sampleRate : Binary32) :
    session.step (.setUpLog address sampleRate) =
      (.stopped (.splitCharacter split), "", session) := by
  rcases setUp_of_fits session.environment fits with
    ⟨other, otherUnread, stopped⟩ | ⟨collector, log, read, _⟩
  · rw [unread] at otherUnread
    cases otherUnread
    rw [Session.step, setUpLog, stopped]
  · rw [unread] at read
    cases read

theorem step_of_read (fits : AddressFits address)
    (read : Log.ofEnvironment session.environment = .ok log) (sampleRate : Binary32) :
    (session.log = none → ∃ collector, session.step (.setUpLog address sampleRate) =
        (.logSetUp collector sampleRate, "", { session with log := some log })) ∧
      (session.log ≠ none → session.step (.setUpLog address sampleRate) =
        (.alreadySetUp, "", session)) := by
  rcases setUp_of_fits session.environment fits with
    ⟨split, unread, _⟩ | ⟨collector, other, otherRead, ready⟩
  · rw [unread] at read
    cases read
  · rw [read] at otherRead
    cases otherRead
    constructor
    · intro unset
      exact ⟨collector, by rw [Session.step, setUpLog, ready, unset]⟩
    · intro isSet
      cases present : session.log with
      | none => exact absurd present isSet
      | some kept => rw [Session.step, setUpLog, ready, present]

theorem step_keeps_of_not_setsUp (not : ¬ step.SetsUp) : (session.step step).2.2 = session := by
  cases step with
  | setUpLog address sampleRate =>
      obtain ⟨error, stopped⟩ : ∃ error, session.step (.setUpLog address sampleRate) =
          (.stopped (.badAddress error), "", session) := step_of_not_fits not sampleRate
      rw [stopped]
  | average values => rfl
  | write part sink => rfl

theorem step_keeps_of_set (isSet : session.log ≠ none) : (session.step step).2.2 = session := by
  by_cases setsUp : step.SetsUp
  · cases step with
    | setUpLog address sampleRate =>
        cases read : Log.ofEnvironment session.environment with
        | error split => rw [step_of_unread setsUp read]
        | ok log => rw [(step_of_read setsUp read sampleRate).2 isSet]
    | average values => rfl
    | write part sink => rfl
  · exact step_keeps_of_not_setsUp setsUp

theorem step_logs_nothing (unset : session.log = none) : (session.step step).2.1 = "" := by
  cases step with
  | setUpLog address sampleRate => rfl
  | average values => exact step_unlogged rfl unset
  | write part sink => exact step_unlogged rfl unset

end

/-! ### A whole run -/

section

variable {session : Session} {steps : List SessionStep}

theorem after_of_set (isSet : session.log ≠ none) (steps : List SessionStep) :
    session.after steps = session := by
  induction steps with
  | nil => rfl
  | cons first rest ih => rw [after_cons, step_keeps_of_set isSet, ih]

theorem after_of_not_setsUp (none : ∀ step ∈ steps, ¬ step.SetsUp) :
    session.after steps = session := by
  induction steps with
  | nil => rfl
  | cons first rest ih =>
      rw [after_cons, step_keeps_of_not_setsUp (none first List.mem_cons_self)]
      exact ih fun step member => none step (List.mem_cons_of_mem first member)

theorem after_of_unread {split : SplitCharacter}
    (unread : Log.ofEnvironment session.environment = .error split)
    (steps : List SessionStep) : session.after steps = session := by
  induction steps with
  | nil => rfl
  | cons first rest ih =>
      have kept : (session.step first).2.2 = session := by
        by_cases setsUp : first.SetsUp
        · cases first with
          | setUpLog address sampleRate => rw [step_of_unread setsUp unread]
          | average values => rfl
          | write part sink => rfl
        · exact step_keeps_of_not_setsUp setsUp
      rw [after_cons, kept, ih]

theorem after_of_setsUp {log : Log} (read : Log.ofEnvironment session.environment = .ok log)
    (unset : session.log = none) (setUp : ∃ step ∈ steps, step.SetsUp) :
    session.after steps = { session with log := some log } := by
  induction steps with
  | nil =>
      obtain ⟨step, member, _⟩ := setUp
      cases member
  | cons first rest ih =>
      rw [after_cons]
      by_cases setsUp : first.SetsUp
      · cases first with
        | setUpLog address sampleRate =>
            obtain ⟨collector, done⟩ := (step_of_read setsUp read sampleRate).1 unset
            have isSet : ({ session with log := some log } : Session).log ≠ none :=
              Option.some_ne_none log
            rw [done]
            exact after_of_set isSet rest
        | average values => exact absurd setsUp id
        | write part sink => exact absurd setsUp id
      · rw [step_keeps_of_not_setsUp setsUp]
        obtain ⟨step, member, within⟩ := setUp
        rcases List.mem_cons.mp member with rfl | later
        · exact absurd within setsUp
        · exact ih ⟨step, later, within⟩

end

def reached (environment : Environment) (before : List SessionStep) : Session :=
  ({ environment } : Session).after before

/-- What is promised of every session in an environment. -/
structure SetsUpOnce (environment : Environment) : Prop where
  badAddress : ∀ before address sampleRate, ¬ AddressFits address →
    ∃ error, (reached environment before).step (.setUpLog address sampleRate) =
      (.stopped (.badAddress error), "", reached environment before)
  first : ∀ before address sampleRate, (∀ earlier ∈ before, ¬ earlier.SetsUp) →
    AddressFits address →
      ∃ collector log, Log.ofEnvironment environment = .ok log ∧
        (reached environment before).step (.setUpLog address sampleRate) =
          (.logSetUp collector sampleRate, "", { environment, log := some log })
  again : ∀ before address sampleRate, (∃ earlier ∈ before, earlier.SetsUp) →
    AddressFits address →
      (reached environment before).step (.setUpLog address sampleRate) =
          (.alreadySetUp, "", reached environment before) ∧
        ((reached environment before).step (.setUpLog address sampleRate)).1.message? =
          some ("failed to initialise the tracing subscriber: " ++
            "a global default trace dispatcher has already been set")
  silent : ∀ before step, (∀ earlier ∈ before, ¬ earlier.SetsUp) →
    ((reached environment before).step step).2.1 = ""
  settled : ∀ before others step, (∃ earlier ∈ before, earlier.SetsUp) →
    (∃ earlier ∈ others, earlier.SetsUp) →
      ((reached environment before).step step).2.1 = ((reached environment others).step step).2.1

section

variable {environment : Environment} {before : List SessionStep}

theorem reached_of_not_setsUp (none : ∀ earlier ∈ before, ¬ earlier.SetsUp) :
    reached environment before = { environment } :=
  after_of_not_setsUp none

theorem reached_of_setsUp {log : Log} (read : Log.ofEnvironment environment = .ok log)
    (setUp : ∃ earlier ∈ before, earlier.SetsUp) :
    reached environment before = { environment, log := some log } := by
  have fresh : Log.ofEnvironment ({ environment } : Session).environment = .ok log := read
  exact after_of_setsUp fresh rfl setUp

theorem reached_of_unread {split : SplitCharacter}
    (unread : Log.ofEnvironment environment = .error split) :
    reached environment before = { environment } := by
  have fresh : Log.ofEnvironment ({ environment } : Session).environment = .error split := unread
  exact after_of_unread fresh before

theorem exists_log_of_reached (isSet : (reached environment before).log ≠ none) :
    ∃ log, Log.ofEnvironment environment = .ok log ∧
      (reached environment before).log = some log := by
  cases read : Log.ofEnvironment environment with
  | error split =>
      rw [reached_of_unread read] at isSet
      exact absurd rfl isSet
  | ok log =>
      by_cases setUp : ∃ earlier ∈ before, earlier.SetsUp
      · rw [reached_of_setsUp read setUp]
        exact ⟨log, rfl, rfl⟩
      · have never : ∀ earlier ∈ before, ¬ earlier.SetsUp := fun earlier member setsUp =>
          setUp ⟨earlier, member, setsUp⟩
        rw [reached_of_not_setsUp never] at isSet
        exact absurd rfl isSet

theorem setsUpOnce_of_read {log : Log} (read : Log.ofEnvironment environment = .ok log) :
    SetsUpOnce environment where
  badAddress before address sampleRate bad := step_of_not_fits bad sampleRate
  first before address sampleRate none fits := by
    have fresh : Log.ofEnvironment ({ environment } : Session).environment = .ok log := read
    obtain ⟨collector, done⟩ := (step_of_read fits fresh sampleRate).1 rfl
    rw [reached_of_not_setsUp none]
    exact ⟨collector, log, read, done⟩
  again before address sampleRate setUp fits := by
    have settled : Log.ofEnvironment
        ({ environment, log := some log } : Session).environment = .ok log := read
    have refused := (step_of_read fits settled sampleRate).2 (Option.some_ne_none log)
    rw [reached_of_setsUp read setUp, refused]
    exact ⟨rfl, rfl⟩
  silent before step none := by
    rw [reached_of_not_setsUp none]
    exact step_logs_nothing rfl
  settled before others step setUp otherSetUp := by
    rw [reached_of_setsUp read setUp, reached_of_setsUp read otherSetUp]

end

/-- Sessions in an environment set up their log at most once, and the first time they try
at an address that fits, exactly if no filter of the environment is cut inside a character.
Otherwise every such try stops and nothing is ever set up. No filter is cut so whose
directives have no blank in front or only characters of a single byte. A run answers and
logs step by step what the session that it has reached does. -/
theorem setsUpOnce_iff (environment : Environment) :
    (SetsUpOnce environment ↔ ∀ split, Log.ofEnvironment environment ≠ .error split) ∧
      (∀ split, Log.ofEnvironment environment = .error split → ∀ before,
        reached environment before = { environment } ∧
          ∀ address sampleRate, AddressFits address →
            (reached environment before).step (.setUpLog address sampleRate) =
              (.stopped (.splitCharacter split), "", { environment })) ∧
      (IsPlainSetting environment.collectorLog → IsPlainSetting environment.log →
        SetsUpOnce environment) ∧
      ∀ before step later,
        (({ environment } : Session).run (before ++ step :: later))[before.length]? =
          some (((reached environment before).step step).1,
            ((reached environment before).step step).2.1) := by
  refine ⟨⟨?_, ?_⟩, ?_, ?_, ?_⟩
  · intro once split unread
    have fits : AddressFits none := fun text none => by cases none
    obtain ⟨collector, log, read, _⟩ := once.first [] none ⟨0⟩ (List.forall_mem_nil _) fits
    rw [unread] at read
    cases read
  · intro unsplit
    cases read : Log.ofEnvironment environment with
    | error split => exact absurd read (unsplit split)
    | ok log => exact setsUpOnce_of_read read
  · intro split unread before
    have fresh : Log.ofEnvironment ({ environment } : Session).environment = .error split :=
      unread
    rw [reached_of_unread unread]
    exact ⟨rfl, fun address sampleRate fits => step_of_unread fits fresh sampleRate⟩
  · intro plainCollector plainLog
    obtain ⟨log, read⟩ := Log.ofEnvironment_of_plain plainCollector plainLog
    exact setsUpOnce_of_read read
  · intro before step later
    exact run_getElem?_middle _ before step later

/-- With a blank in front of a filter with a character of two bytes, setting up the log at
no address stops. -/
theorem not_setsUpOnce_after_blank : ¬ SetsUpOnce { log := some " xé=info" } := by
  intro once
  have fits : AddressFits none := fun text none => by cases none
  obtain ⟨collector, log, read, _⟩ := once.first [] none ⟨0⟩ (List.forall_mem_nil _) fits
  have unread : (Log.ofEnvironment { log := some " xé=info" }).isOk = false := by
    decide +kernel
  rw [read] at unread
  cases unread

end Session
end ScoreSheet
