import Scenario.Run.Handler
import Scenario.Run.Log
/-!
Runs.

A run goes from node to node along the edges of its graph. `Run.poll` is one look at it: a run that
is ready carries out the step of its node, and one that is suspended goes on if what it waits for
has come. After each step it gives way, so between any two steps it may be cancelled and time may
pass. Whatever happens to a run is in its log and its end.
-/
namespace Scenario

open Json (Value)

inductive Outcome where
  | completed
  | cancelled
  | timedOut
  | failed
deriving DecidableEq, Repr

namespace Outcome

def all : List Outcome := [.completed, .cancelled, .timedOut, .failed]

def name : Outcome → String
  | .completed => "completed"
  | .cancelled => "cancelled"
  | .timedOut => "timedOut"
  | .failed => "failed"

end Outcome

/-- How a run ended, and when. -/
structure Ending where
  outcome : Outcome
  error : Option RunError
  time : Nat
deriving DecidableEq

inductive Phase where
  | ready
  | suspended (step : Suspended)
  | ended (ending : Ending)

namespace Graph

/-- The edge to follow from a node: the one with the label that an assertion chose, and otherwise
the first one. -/
def choose (graph : Graph) (node : Node) : Option Bool → Except RunError (Option Edge)
  | none => .ok (graph.edgesFrom node.id).head?
  | some label =>
    match (graph.edgesFrom node.id).find? (·.label = some label) with
    | some edge => .ok (some edge)
    | none => .error (.deadEnd node.id label)

/-- The node after a node; none, if no edge leaves it. -/
def next (graph : Graph) (node : Node) (branch : Option Bool) : Except RunError (Option Node) := do
  match ← graph.choose node branch with
  | none => return none
  | some edge =>
    match graph.node? edge.target with
    | some target => return some target
    | none =>
      .error (.defect ("edge '" ++ edge.id ++ "' points at missing node '" ++ edge.target ++ "'"))

end Graph

/-- A run; `epoch` is the time since 1970 at which its clock stands at zero. -/
structure Run where
  graph : Graph
  registry : Registry
  tolerance : UInt32
  epoch : Nat
  startedAt : Nat
  node : Node
  tolerated : Nat
  context : Context
  log : List LogEntry
  phase : Phase

structure Line where
  level : Level
  message : String
  payload : Option Value
deriving DecidableEq

namespace Run

def start (graph : Graph) (registry : Registry) (tolerance : UInt32) (epoch : Nat)
    (vars : Variables) (timeout : UInt64) (now : Nat) : Run where
  graph
  registry
  tolerance
  epoch
  startedAt := now
  node := graph.entry
  tolerated := 0
  context := .start vars timeout now
  log := []
  phase := .ready

def cancel (run : Run) : Run := { run with context.cancelled := true }

/-- A line about the node at which the run stands, as an entry of the log. -/
def entryOf (run : Run) (now : Nat) (line : Line) : LogEntry :=
  ⟨.ofMillis (run.epoch + now), line.level, line.message, some run.node.ref, line.payload⟩

def write (run : Run) (now : Nat) (line : Line) : Run :=
  { run with log := run.log ++ [run.entryOf now line] }

def finish (run : Run) (now : Nat) (outcome : Outcome) (error : Option RunError) : Run :=
  { run with phase := .ended ⟨outcome, error, now⟩ }

def fail (run : Run) (now : Nat) (outcome : Outcome) (error : RunError) (payload : Option Value) :
    Run :=
  (run.write now ⟨.error, error.message, payload⟩).finish now outcome (some error)

def stop (run : Run) (now : Nat) : StepError → Run
  | .interrupted .cancelled =>
    (run.write now ⟨.info, "Run cancelled at node '" ++ run.node.id ++ "'", none⟩).finish now
      .cancelled none
  | .interrupted .timedOut => run.fail now .timedOut (.timedOut run.context.timeout) none
  | .requestFailed failure => run.fail now .failed (.request failure) (some failure.encode)
  | .invalid fault => run.fail now .failed (.invalidStep fault.message) none
  | .defect e => run.fail now .failed (.defect e.message) none

/-- The line about a dead end takes in the line of the node. -/
def deadEndLine (line : Option Line) (error : RunError) : Line :=
  match line with
  | some line => ⟨.error, line.message ++ ": " ++ error.message, line.payload⟩
  | none => ⟨.error, error.message, none⟩

def advance (run : Run) (now : Nat) (line : Option Line) (branch : Option Bool) : Run :=
  match run.graph.next run.node branch with
  | .ok next =>
    let run := line.elim run (run.write now)
    match next with
    | some node => { run with node, phase := .ready }
    | none => run.finish now .completed none
  | .error e => (run.write now (deadEndLine line e)).finish now .failed (some e)

/-- The line of a step that is done. -/
def reportLine (report : StepReport) : Option Line :=
  report.summary.map fun summary => ⟨.info, summary, report.payload⟩

/-- The line of the failure of a request that is tolerated. -/
def toleratedLine (count : Nat) (tolerance : UInt32) (failure : RequestFailure) : Line :=
  ⟨.error, "Request failed (" ++ toString count ++ " of " ++ toString tolerance.toNat
      ++ " tolerated): " ++ failure.message,
    some failure.encode⟩

def proceed (run : Run) (now : Nat) : Progress → Run
  | .suspended step => { run with phase := .suspended step }
  | .finished (.ok (report, context)) =>
    { run with context }.advance now (reportLine report) report.branch
  | .finished (.error (.requestFailed failure)) =>
    if run.tolerated < run.tolerance.toNat then
      { run with tolerated := run.tolerated + 1 }.advance now
        (some (toleratedLine (run.tolerated + 1) run.tolerance failure)) none
    else run.stop now (.requestFailed failure)
  | .finished (.error e) => run.stop now e

/-- Carries out the step of the node, unless the run has to stop. -/
def dispatch (run : Run) (now : Nat) (transport : Transport) : Run × Transport :=
  match run.context.limits.interruption? now with
  | some reason => (run.stop now (.interrupted reason), transport)
  | none =>
    match run.registry.get run.node.kind with
    | .error e => (run.stop now (.defect e), transport)
    | .ok handler =>
      let (progress, transport) := run.node.start handler run.context now transport
      (run.proceed now progress, transport)

def poll (run : Run) (now : Nat) (transport : Transport) : Run × Transport :=
  match run.phase with
  | .ready => run.dispatch now transport
  | .suspended step => (run.proceed now (step.look run.context now), transport)
  | .ended _ => (run, transport)

def ending? (run : Run) : Option Ending :=
  match run.phase with
  | .ended ending => some ending
  | _ => none

def wake? (run : Run) (now : Nat) : Option Nat :=
  match run.phase with
  | .ready => some now
  | .suspended step => some (step.wake run.context.limits now)
  | .ended _ => none

/-- Looks at the run until it has ended, at most `fuel` times. The clock stands at `now` and moves
only while the run is suspended; at the time `cancelAt`, if that is given, the run is cancelled. -/
def complete (cancelAt : Option Nat) :
    (fuel now : Nat) → Run → Transport → Nat × Run × Transport
  | 0, now, run, transport => (now, run, transport)
  | fuel + 1, now, run, transport =>
    let run := if Operation.cancelledBy cancelAt now then run.cancel else run
    let (run, transport) := run.poll now transport
    match run.wake? now with
    | none => (now, run, transport)
    | some wake =>
      let wake :=
        match cancelAt with
        | some time => if now < time then min time wake else wake
        | none => wake
      complete cancelAt fuel wake run transport

end Run

end Scenario
