import ScoreSheet.CommandLine.Options
import ScoreSheet.Session

/-!
A whole run of the program: it reads its options, sets up the log and prints the
report of the fixed sample.  The report alone goes to the standard output; the
log and every mistake go to the error output.
-/

namespace ScoreSheet

inductive Stdout where
  | readable
  | failing (cause : String)
deriving DecidableEq, Repr

namespace Stdout

def full : Stdout := .failing "No space left on device (os error 28)"

def closed : Stdout := .failing "Broken pipe (os error 32)"

/-- What a report is written to. Where writing fails, its first line fails. -/
def sink : Stdout → Sink
  | .readable => Sink.unlimited
  | .failing cause => { limit := some 0, whenFull := .fails cause }

/-- What is left of a text that is printed and then forgotten. -/
def shown (stdout : Stdout) (text : String) : List UInt8 :=
  match stdout with
  | .readable => text.toUTF8.data.toList
  | .failing _ => []

end Stdout

inductive RunResult where
  | exited (code : Nat) (stdout : List UInt8) (stderr : String)
  | stopped (error : SetUpError)
deriving DecidableEq, Repr

namespace RunResult

/-- The exit code. What stops the setting up stops the program at once. -/
def exitCode : RunResult → Nat
  | .exited code _ _ => code
  | .stopped _ => 101

def stdout : RunResult → List UInt8
  | .exited _ stdout _ => stdout
  | .stopped _ => []

def stderr : RunResult → String
  | .exited _ _ stderr => stderr
  | .stopped error => error.message ++ "\n"

end RunResult

namespace Run

def print (log : Log) (stdout : Stdout) : RunResult :=
  let part := Part.all Sample.fixed
  let outcome := part.write stdout.sink
  let logged := log.lines none [.starting] ++ log.lines part.span outcome.events
  match outcome.result with
  | .ok () => .exited 0 outcome.sink.written.toList logged
  | .error error =>
      .exited 1 outcome.sink.written.toList
        (logged ++ log.lines none [.printFailed error.message] ++
          "Error: " ++ error.message ++ "\n")

def outcome (environment : Environment) (words : List String) (stdout : Stdout) : RunResult :=
  match Options.read environment words with
  | .error error =>
      let message := error.printed programName environment
      if error.isRequest then .exited error.exitCode (stdout.shown message) ""
      else .exited error.exitCode [] message
  | .ok options =>
      match setUp environment options.address with
      | .error error => .stopped error
      | .ok (_, log) => print log stdout

end Run
end ScoreSheet
