import Scenario.Collection
import Scenario.Config
import Scenario.Run.Event
/-!
The command line.

`run FILE [ENVIRONMENT]` runs one flow and prints its stream; environments are looked for beside
the file. `serve`, or no word at all, starts the service.
-/
namespace Scenario

namespace CommandLine

inductive Command where
  | serve
  | run (file : String) (environment : Option String)
deriving DecidableEq, Repr

inductive UsageError where
  | noFile
  | unknownCommand (word : String)
deriving DecidableEq, Repr

def UsageError.message : UsageError → String
  | .noFile => "usage: run <file.flow> [environment]"
  | .unknownCommand word => "unknown command '" ++ word ++ "', expected 'serve' or 'run'"

/-- The command that some words give; words that are not needed are ignored. -/
def Command.ofWords : List String → Except UsageError Command
  | [] | "serve" :: _ => .ok .serve
  | ["run"] => .error .noFile
  | "run" :: file :: rest => .ok (.run file rest.head?)
  | word :: _ => .error (.unknownCommand word)

/-- What stands before the last name of a path, with its slash. -/
def directoryOf (file : String) : String :=
  String.ofList (file.toList.reverse.dropWhile (· != '/')).reverse

def environmentFile (file name : String) : Except FlowError String := do
  checkName name
  return directoryOf file ++ "environments/" ++ name ++ ".env"

/-- The text of a file and the variables of an environment; `read` reads a file. -/
def load {m : Type → Type} [Monad m] (read : String → m (Except FlowError String))
    (file : String) (environment : Option String) : m (Except FlowError (String × Variables)) := do
  match ← read file with
  | .error e => return .error e
  | .ok text =>
    match environment with
    | none => return .ok (text, {})
    | some name =>
      match environmentFile file name with
      | .error e => return .error e
      | .ok path => return (← read path).map fun lines => (text, Environment.read lines)

/-- The job of running a flow; `epoch` is the time since 1970 at which its clock stands at zero. -/
def job (config : Config) (epoch : Nat) (text : String) (vars : Variables) : Job :=
  .start .standard config.tolerance epoch ⟨config.timeout, vars⟩ 0
    (Registry.standard.read text)

/-- What the program exits with: zero only if the run was completed. -/
def exitCode (outcome : Outcome) : UInt8 := if outcome = .completed then 0 else 1

/-- One name further on the way to a file. A point stays where it is and two points go back; every
name needs a directory to start from. -/
def descend (disk : Disk) (path : Path) (name : List Char) : Except DiskFault Path := do
  match ← disk.locate path with
  | none => .error .notFound
  | some (.file _) => .error .notADirectory
  | some .directory =>
    if name = [] ∨ name = ['.'] then .ok path
    else if name = ['.', '.'] then
      if path = [] then .error .notFound else .ok path.dropLast
    else .ok (path ++ [String.ofList name])

/-- The path that a text writes. The disk has nothing outside of its top. -/
def resolve (disk : Disk) (file : String) : Except DiskFault Path :=
  if file.isEmpty || file.toList.head? == some '/' then .error .notFound
  else if disk.limits.longest < file.utf8ByteSize then .error .nameTooLong
  else (Text.splitOn '/' file.toList).foldlM (descend disk) []

def readFrom (disk : Disk) (file : String) : Except FlowError String := do
  let path ← (resolve disk file).mapError .disk
  ((FileTask.readText path).run disk).1

/-- Carries out the words of a command line on a disk: the exit code and the events that are
printed. The id is the one that is made for the run. -/
def run (config : Config) (disk : Disk) (id : RunId) (fuel : Nat) (words : List String)
    (transport : Transport := .offline) (epoch : Nat := 0) : UInt8 × List RunEvent :=
  match Command.ofWords words with
  | .error _ | .ok .serve => (1, [])
  | .ok (.run file environment) =>
    match load (m := Id) (readFrom disk) file environment with
    | .error _ => (1, [])
    | .ok (text, vars) =>
      let task := RunTask.complete ⟨id, job config epoch text vars⟩ fuel 0 transport
      match task.result? with
      | none => (1, [])
      | some result => (exitCode result.outcome, RunEvent.stream task.log result)

end CommandLine

end Scenario
