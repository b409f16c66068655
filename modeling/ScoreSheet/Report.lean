import ScoreSheet.Average
import ScoreSheet.Decimal.Text
import ScoreSheet.Log.Event
import ScoreSheet.Sample
import ScoreSheet.Sink

/-!
The report as a list of actions: texts to write and events to announce, in
order.  What a report says (`text`) is told by its actions alone; `perform`
carries them out on a sink and stops at the first one that fails.
-/

namespace ScoreSheet

inductive Action where
  | write (text : String)
  | announce (event : Event)
  | fail (error : AverageError)
deriving DecidableEq, Repr

inductive ReportError where
  | average (error : AverageError)
  | write (error : WriteError)
deriving DecidableEq, Repr

def ReportError.message : ReportError → String
  | .average error => error.message
  | .write error => error.message

structure Outcome where
  result : Except ReportError Unit
  events : List Event
  sink : Sink

namespace Action

/-- The text of actions on a sink that takes everything. -/
def text : List Action → String
  | [] => ""
  | .write piece :: rest => piece ++ text rest
  | .announce _ :: rest => text rest
  | .fail _ :: _ => ""

/-- Performs actions in order, up to the first that fails. -/
def perform (sink : Sink) : List Action → Outcome
  | [] => ⟨.ok (), [], sink⟩
  | .write piece :: rest =>
      match sink.writeAll piece.toUTF8.data.toList with
      | (.ok (), next) => perform next rest
      | (.error error, next) => ⟨.error (.write error), [], next⟩
  | .announce event :: rest =>
      let outcome := perform sink rest
      { outcome with events := event :: outcome.events }
  | .fail error :: _ => ⟨.error (.average error), [], sink⟩

/-- A line is written piece by piece, its line break last. -/
def line (pieces : List String) : List Action :=
  (pieces ++ ["\n"]).map .write

end Action

namespace Report

def conditionMet : String := "x is greater than 10 and y is less than 10"

def conditionNotMet : String := "Condition not met"

def name (sample : Sample) : List Action :=
  Action.line ["Name: ", sample.name]

def scalars (sample : Sample) : List Action :=
  Action.line
    ["Char: ", sample.c.toString, ", Float: ", sample.y.toHundredthsText, ", Int: ",
      toString sample.x.toInt]

def condition (sample : Sample) : List Action :=
  Action.line [if sample.isConditionMet then conditionMet else conditionNotMet]

def score (number : Nat) (value : Int32) : List Action :=
  Action.line ["Score ", toString number, ": ", toString value.toInt]

def scoresFrom (first : Nat) : List Int32 → List Action
  | [] => []
  | value :: rest => score first value ++ scoresFrom (first + 1) rest

def scores (values : List Int32) : List Action :=
  scoresFrom 1 values

def averageLine (average : Binary32) : List Action :=
  Action.line ["Average Score: ", average.toHundredthsText]

def averageOf (values : List Int32) : Event × Except AverageError Binary32 :=
  let state := Average.ofList values
  (.averaging state.count.toNat, state.average?)

def average (sample : Sample) : List Action :=
  let (announcement, average) := averageOf sample.scores.toList
  .announce announcement ::
    match average with
    | .error error => [.fail error]
    | .ok average => .announce (.averaged average) :: averageLine average

def all (sample : Sample) : List Action :=
  name sample ++ scalars sample ++ condition sample ++ scores sample.scores.toList ++
    average sample

end Report

inductive Part where
  | all (sample : Sample)
  | name (sample : Sample)
  | scalars (sample : Sample)
  | condition (sample : Sample)
  | scores (values : List Int32)
deriving Repr

namespace Part

def actions : Part → List Action
  | .all sample => Report.all sample
  | .name sample => Report.name sample
  | .scalars sample => Report.scalars sample
  | .condition sample => Report.condition sample
  | .scores values => Report.scores values

def text (part : Part) : String :=
  Action.text part.actions

def span : Part → Option RenderSpan
  | .all sample => some ⟨sample.count⟩
  | _ => none

def write (part : Part) (sink : Sink) : Outcome :=
  Action.perform sink part.actions

/-- Writes parts one after the other on one sink, going on after a failure. -/
def writeEach (sink : Sink) : List Part → List Outcome
  | [] => []
  | part :: rest =>
      let outcome := part.write sink
      outcome :: writeEach outcome.sink rest

end Part
end ScoreSheet
