import Scenario.Run.Basic
import Scenario.Run.Id
/-!
Jobs and their results.

A job is a flow that was handed over to be run. If the flow is no graph that can be run the job is
rejected: it has one line in its log and has failed before its first node. Every other job is a run.
The task of a job carries the id that was made for it, from its start to its result.
-/
namespace Scenario

open Json (Value)

/-- The final report of a job; a rejected one has no last node. -/
structure RunResult where
  runId : RunId
  outcome : Outcome
  lastNode : Option String
  error : Option RunError
  startedAt : Timestamp
  finishedAt : Timestamp
  vars : Variables
deriving DecidableEq

/-- The graph of a flow that was loaded, or the error with which its job is rejected. -/
def graphToRun : Except FlowError (Option Flow) → Except RunError Graph
  | .ok (some flow) => (Graph.build flow).mapError fun fault => .ofFlowError (.graph fault)
  | .ok none => .error (.ofFlowError (.graph .empty))
  | .error e => .error (.ofFlowError e)

structure RunOptions where
  timeout : UInt64
  vars : Variables

/-- The time after which a run ends if nobody says otherwise: a minute. -/
def defaultTimeout : UInt64 := 60000

def RunOptions.default : RunOptions := ⟨defaultTimeout, {}⟩

inductive Job where
  | rejected (error : RunError) (time : Timestamp)
  | accepted (run : Run)

namespace Job

/-- Hands over a flow; `epoch` is the time since 1970 at which the clock stands at zero. -/
def start (registry : Registry) (tolerance : UInt32) (epoch : Nat) (options : RunOptions)
    (now : Nat) (loaded : Except FlowError (Option Flow)) : Job :=
  match graphToRun loaded with
  | .ok graph =>
    .accepted (.start graph registry tolerance epoch options.vars options.timeout now)
  | .error e => .rejected e (.ofMillis (epoch + now))

def log : Job → List LogEntry
  | .rejected e time => [⟨time, .error, e.message, none, none⟩]
  | .accepted run => run.log

/-- The report of a job that has ended; `id` is the one that its task carries. -/
def result? (id : RunId) : Job → Option RunResult
  | .rejected e time => some ⟨id, .failed, none, some e, time, time, {}⟩
  | .accepted run =>
    run.ending?.map fun ending =>
      { runId := id, outcome := ending.outcome, lastNode := some run.node.id,
        error := ending.error, startedAt := .ofMillis (run.epoch + run.startedAt),
        finishedAt := .ofMillis (run.epoch + ending.time), vars := run.context.vars }

def isActive : Job → Bool
  | .rejected .. => false
  | .accepted run => run.ending?.isNone

def cancel : Job → Job
  | .accepted run => .accepted run.cancel
  | job => job

def poll (job : Job) (now : Nat) (transport : Transport) : Job × Transport :=
  match job with
  | .accepted run =>
    let (run, transport) := run.poll now transport
    (.accepted run, transport)
  | .rejected e time => (.rejected e time, transport)

def wake? (job : Job) (now : Nat) : Option Nat :=
  match job with
  | .accepted run => run.wake? now
  | .rejected .. => none

/-- Carries the job out by itself, and cancels it after so many milliseconds. -/
def complete (job : Job) (cancelAfter : Option Nat) (fuel now : Nat) (transport : Transport) :
    Nat × Job × Transport :=
  match job with
  | .accepted run =>
    let cancelAt := cancelAfter.map fun duration => timerEnd duration now
    let (now, run, transport) := run.complete cancelAt fuel now transport
    (now, .accepted run, transport)
  | .rejected e time => (now, .rejected e time, transport)

end Job

/-- A job together with the id of its run. -/
structure RunTask where
  runId : RunId
  job : Job

namespace RunTask

def log (task : RunTask) : List LogEntry := task.job.log

def result? (task : RunTask) : Option RunResult := task.job.result? task.runId

def cancel (task : RunTask) : RunTask := { task with job := task.job.cancel }

def poll (task : RunTask) (now : Nat) (transport : Transport) : RunTask × Transport :=
  let (job, transport) := task.job.poll now transport
  ({ task with job }, transport)

def complete (task : RunTask) (fuel now : Nat) (transport : Transport) : RunTask :=
  { task with job := (task.job.complete none fuel now transport).2.1 }

end RunTask

end Scenario
