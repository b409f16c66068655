import ScoreSheet.Address
import ScoreSheet.CommandLine.Argument
import ScoreSheet.Log.Line
import ScoreSheet.Report

/-!
A session that may set up its log at any time, averages and writes reports.

The log is set up at most once.  Setting it up first checks the address of the
collector and then reads the filters, and what stops it leaves everything as it
was.  Every other step does the same work whether or not there is a log; only what
it logs differs.
-/

namespace ScoreSheet

inductive SetUpError where
  | badAddress (error : AddressError)
  | splitCharacter (split : SplitCharacter)
deriving DecidableEq, Repr

def SetUpError.message : SetUpError → String
  | .badAddress error => error.message
  | .splitCharacter split => split.message

/-- The log that an environment asks for. Lines are coloured unless `NO_COLOR`
is set to something. -/
def Log.ofEnvironment (environment : Environment) : Except SplitCharacter Log :=
  (Filter.ofVariable environment.collectorLog .info).bind fun collector =>
    (Filter.ofVariable environment.log .warn).map fun log =>
      { filters := ⟨collector, log⟩
        colouring := if Environment.isFilled environment.noColour then .plain else .coloured }

/-- Whether there is a collector. The given address has to be one; if none is
given, or an empty one, the environment's is taken unless it is bad. -/
def hasCollector (environment : Environment) (address : Option String) :
    Except AddressError Bool :=
  match address.filter (· ≠ "") with
  | some text => (Address.check text).map fun _ => true
  | none => .ok (environment.otherAddress.any fun text => (Address.check text).isOk)

def setUp (environment : Environment) (address : Option String) :
    Except SetUpError (Bool × Log) :=
  ((hasCollector environment address).mapError .badAddress).bind fun collector =>
    ((Log.ofEnvironment environment).mapError .splitCharacter).map fun log => (collector, log)

inductive SessionStep where
  | setUpLog (address : Option String) (sampleRate : Binary32)
  | average (values : List Int32)
  | write (part : Part) (sink : Sink)
deriving Repr

inductive SessionAnswer where
  | logSetUp (collector : Bool) (sampleRate : Binary32)
  | stopped (error : SetUpError)
  | alreadySetUp
  | average (result : Except AverageError Binary32)
  | written (outcome : Outcome)

def alreadySetUpMessage : String :=
  "failed to initialise the tracing subscriber: " ++
    "a global default trace dispatcher has already been set"

def SessionAnswer.message? : SessionAnswer → Option String
  | .logSetUp _ _ | .average (.ok _) => none
  | .stopped error => some error.message
  | .alreadySetUp => some alreadySetUpMessage
  | .average (.error error) => some error.message
  | .written outcome =>
      match outcome.result with
      | .ok () => none
      | .error error => some error.message

structure Session where
  environment : Environment
  log : Option Log := none
deriving DecidableEq, Repr

namespace Session

/-- What is logged of events that happen while `opened` is open. -/
def logged (session : Session) (opened : Option RenderSpan) (events : List Event) : String :=
  match session.log with
  | none => ""
  | some log => log.lines opened events

def setUpLog (session : Session) (address : Option String) (sampleRate : Binary32) :
    SessionAnswer × Session :=
  match setUp session.environment address with
  | .error error => (.stopped error, session)
  | .ok (collector, log) =>
      match session.log with
      | some _ => (.alreadySetUp, session)
      | none => (.logSetUp collector sampleRate, { session with log := some log })

/-- The answer of a step, what it logs, and the session after it. -/
def step (session : Session) : SessionStep → SessionAnswer × String × Session
  | .setUpLog address sampleRate =>
      let (answer, next) := session.setUpLog address sampleRate
      (answer, "", next)
  | .average values =>
      let (announcement, result) := Report.averageOf values
      (.average result, session.logged none [announcement], session)
  | .write part sink =>
      let outcome := part.write sink
      (.written outcome, session.logged part.span outcome.events, session)

def run (session : Session) : List SessionStep → List (SessionAnswer × String)
  | [] => []
  | first :: rest =>
      let (answer, logged, next) := session.step first
      (answer, logged) :: next.run rest

end Session
end ScoreSheet
