import Scenario.Pool
/-!
Many jobs at once.

A runner takes jobs and looks at their runs in turn. The clock stands still as long as some run can
go on, and then jumps to the next time at which one can. A run that gave way is looked at again
after all others of its round, the last one to give way first; runs whose waiting ends at one time
are taken in the order in which they began to wait. A new run gives way once before its first step.
-/
namespace Scenario

structure Runner extends Pool where
  clock : Nat
  transport : Transport
  /-- The jobs that were not looked at yet. -/
  newcomers : List RunId
  /-- The jobs to look at next. -/
  queue : List RunId
  /-- The runs that are suspended, in the order in which they began to wait. -/
  waiting : List RunId

namespace Runner

def start (registry : Registry) (tolerance : UInt32) (epoch : Nat) (transport : Transport) :
    Runner :=
  ⟨.start registry tolerance epoch, 0, transport, [], [], []⟩

def submit (runner : Runner) (id : RunId) (options : RunOptions)
    (loaded : Except FlowError (Option Flow)) : Runner :=
  { runner with
    toPool := runner.toPool.submit id options runner.clock loaded
    newcomers := runner.newcomers ++ [id]
    queue := runner.queue ++ [id] }

/-- Cancels an active run, which is looked at again; says whether there is such a run. -/
def cancel (runner : Runner) (id : RunId) : Bool × Runner :=
  let (found, pool) := runner.toPool.cancel id
  let runner := { runner with toPool := pool }
  if found ∧ id ∈ runner.waiting then
    (found, { runner with
      waiting := runner.waiting.filter (· ≠ id), queue := runner.queue ++ [id] })
  else (found, runner)

/-- A look at a run, which may go on, begin to wait, or end; a task that has ended leaves at once.
Says whether the run gave way. -/
def pollRun (runner : Runner) (id : RunId) : Bool × Runner :=
  let (pool, transport) := runner.toPool.look id runner.clock runner.transport
  let runner := { runner with toPool := pool.leave id, transport }
  match pool.job? id with
  | some (.accepted run) =>
    match run.phase with
    | .ready => (true, runner)
    | .suspended _ => (false, { runner with waiting := runner.waiting ++ [id] })
    | .ended _ => (false, runner)
  | _ => (false, runner)

/-- A look at a job; says whether it gave way. -/
def look (runner : Runner) (id : RunId) : Bool × Runner :=
  match runner.job? id with
  | some (.accepted _) =>
    if id ∈ runner.newcomers then
      (true, { runner with newcomers := runner.newcomers.filter (· ≠ id) })
    else runner.pollRun id
  | _ => (false, { runner with newcomers := runner.newcomers.filter (· ≠ id) })

/-- Looks at some jobs one after the other; those that give way are put in front of `gaveWay`. -/
def lookAll (runner : Runner) (gaveWay : List RunId) : List RunId → List RunId × Runner
  | [] => (gaveWay, runner)
  | id :: rest =>
    let (again, runner) := runner.look id
    runner.lookAll (if again then id :: gaveWay else gaveWay) rest

def round (runner : Runner) : Runner :=
  let (queue, runner) := { runner with queue := [] }.lookAll [] runner.queue
  { runner with queue }

/-- Goes on until no run can at the present time, at most `fuel` rounds. -/
def settle : (fuel : Nat) → Runner → Runner
  | 0, runner => runner
  | fuel + 1, runner =>
    if runner.queue.isEmpty then runner else settle fuel runner.round

def wake? (runner : Runner) (id : RunId) : Option Nat :=
  match runner.job? id with
  | some (.accepted run) => run.wake? runner.clock
  | _ => none

/-- The next time at which some waiting run can go on. -/
def nextTime? (runner : Runner) : Option Nat := (runner.waiting.filterMap runner.wake?).min?

/-- Sets the clock to a later time and wakes the runs whose waiting ends by then. -/
def advanceTo (runner : Runner) (time : Nat) : Runner :=
  let (woken, waiting) := runner.waiting.partition fun id => (runner.wake? id).any (· ≤ time)
  { runner with clock := time, queue := runner.queue ++ woken, waiting }

/-- Lets the runs go on until the clock reaches a time. -/
def runUntil (time : Nat) : (fuel : Nat) → Runner → Runner
  | 0, runner => runner
  | fuel + 1, runner =>
    if !runner.queue.isEmpty then runUntil time fuel runner.round
    else
      match runner.nextTime? with
      | some next =>
        if next < time then runUntil time fuel (runner.advanceTo next) else runner.advanceTo time
      | none => runner.advanceTo time

/-- Lets so much time pass, as far as a timer can tell. -/
def sleep (runner : Runner) (fuel duration : Nat) : Runner :=
  if duration = 0 then runner else runUntil (timerEnd duration runner.clock) fuel runner

def hasEnded (runner : Runner) (id : RunId) : Bool :=
  id ∉ runner.newcomers && (runner.task? id).all (·.result?.isSome)

/-- Lets the runs go on until a job has ended. -/
def finish (id : RunId) : (fuel : Nat) → Runner → Runner
  | 0, runner => runner
  | fuel + 1, runner =>
    if runner.hasEnded id then runner
    else if !runner.queue.isEmpty then finish id fuel runner.round
    else
      match runner.nextTime? with
      | some next => finish id fuel (runner.advanceTo next)
      | none => runner

end Runner

end Scenario
