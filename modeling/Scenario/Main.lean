import Scenario.CommandLine
import Std.Time.DateTime
/-!
The program.

It reads files, follows a job by the clock of the machine and prints the events as they come. There
is no network here: requests are refused, and `serve` is not available.
-/
open Scenario

def diskFault : IO.Error → DiskFault
  | .alreadyExists .. => .alreadyExists
  | .inappropriateType .. => .isADirectory
  | .invalidArgument .. => .zeroInName
  | _ => .notFound

def readFile (file : String) : IO (Except FlowError String) := do
  try
    match String.fromUTF8? (← IO.FS.readBinFile file) with
    | some text => return .ok text
    | none => return .error (.disk .notText)
  catch e => return .error (.disk (diskFault e))

def printEvent (event : RunEvent) : IO Unit := do
  IO.print event.line
  (← IO.getStdout).flush

/-- Follows a task to its end; `shown` entries of its log have been printed. -/
partial def follow (started shown : Nat) (task : RunTask) : IO UInt32 := do
  let now := (← IO.monoMsNow) - started
  let (task, _) := task.poll now .offline
  for entry in task.log.drop shown do
    printEvent (.log entry)
  match task.result?, task.job.wake? now with
  | some result, _ => do
    printEvent (.result result)
    return (CommandLine.exitCode result.outcome).toUInt32
  | none, wake => do
    IO.sleep (min (wake.getD now - now) 1000).toUInt32
    follow started task.log.length task

def variablesOf (names : List String) : IO (String → Option String) := do
  let values ← names.mapM fun name => return (name, ← IO.getEnv name)
  return fun name => (values.lookup name).join

def fail (message : String) : IO UInt32 := do
  IO.eprintln ("Error: " ++ message)
  return 1

def main (words : List String) : IO UInt32 := do
  match CommandLine.Command.ofWords words with
  | .error e => fail e.message
  | .ok .serve => fail "there is no network to serve"
  | .ok (.run file environment) => do
    match ← CommandLine.load readFile file environment with
    | .error e => fail e.message
    | .ok (text, vars) => do
      let config := Config.ofVariables (← variablesOf Config.variableNames)
      let epoch := (← Std.Time.Timestamp.now).toMillisecondsSinceUnixEpoch.val.toNat
      let id := RunId.ofNat (← IO.rand 0 340282366920938463463374607431768211455)
      follow (← IO.monoMsNow) 0 ⟨id, CommandLine.job config epoch text vars⟩
