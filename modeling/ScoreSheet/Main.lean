import ScoreSheet.Run

/-!
The command line of the program.
-/

namespace ScoreSheet

def Environment.current : IO Environment := do
  let names := [Environment.addressName, Environment.sampleRateName, Environment.collectorLogName,
    Environment.logName, Environment.otherAddressName, Environment.noColourName,
    Environment.forcedColourName]
  let values ← names.mapM fun name => do
    pure (name, ← IO.getEnv name)
  pure (Environment.ofLookup fun name => (values.lookup name).join)

def Stdout.ofFailure : IO.Error → Stdout
  | .resourceExhausted _ _ _ => .full
  | .resourceVanished _ _ => .closed
  | failure => .failing failure.toString

def RunResult.finish (result : RunResult) : IO UInt32 := do
  let output ← IO.getStdout
  output.write (ByteArray.mk result.stdout.toArray)
  output.flush
  IO.eprint result.stderr
  pure (UInt32.ofNat result.exitCode)

end ScoreSheet

open ScoreSheet in
def main (words : List String) : IO UInt32 := do
  let environment ← Environment.current
  try
    (Run.outcome environment words .readable).finish
  catch failure =>
    (Run.outcome environment words (.ofFailure failure)).finish
