import Scenario.Run.Result
/-!
Jobs side by side.

A pool holds the tasks of the jobs that were handed over, each under the id by which it is asked
for, and a table of the runs that are active. A run is put into the table when it is handed over,
before its first step, and is taken out when its task has ended; a job that is rejected never gets
in. A run may be cancelled by whoever finds it in the table or holds its token. Each of these is one
step; in which order they come, at what time and with which transport a run is looked at, is up to
the surroundings.
-/
namespace Scenario

structure Pool where
  registry : Registry
  tolerance : UInt32
  /-- The time since 1970 at which the clock stands at zero. -/
  epoch : Nat
  /-- All tasks, in the order in which they were started. -/
  tasks : List (RunId × RunTask)
  /-- The runs that are active, in the order in which they were started. -/
  table : List RunId

namespace Pool

def start (registry : Registry) (tolerance : UInt32) (epoch : Nat) : Pool :=
  ⟨registry, tolerance, epoch, [], []⟩

def task? (pool : Pool) (id : RunId) : Option RunTask := pool.tasks.lookup id

def job? (pool : Pool) (id : RunId) : Option Job := (pool.task? id).map RunTask.job

def setTask (pool : Pool) (id : RunId) (task : RunTask) : Pool :=
  { pool with tasks := pool.tasks.map fun entry => if entry.1 = id then (id, task) else entry }

/-- The job of a flow that is handed over. -/
def newJob (pool : Pool) (options : RunOptions) (now : Nat)
    (loaded : Except FlowError (Option Flow)) : Job :=
  .start pool.registry pool.tolerance pool.epoch options now loaded

/-- Hands a flow over with a new id; if it makes a graph its run is active from now on. -/
def submit (pool : Pool) (id : RunId) (options : RunOptions) (now : Nat)
    (loaded : Except FlowError (Option Flow)) : Pool :=
  let job := pool.newJob options now loaded
  { pool with
    tasks := pool.tasks ++ [(id, ⟨id, job⟩)]
    table := if job.isActive then pool.table ++ [id] else pool.table }

def look (pool : Pool) (id : RunId) (now : Nat) (transport : Transport) : Pool × Transport :=
  match pool.task? id with
  | some task =>
    let (task, transport) := task.poll now transport
    (pool.setTask id task, transport)
  | none => (pool, transport)

/-- Takes a run out of the table if it has ended. -/
def leave (pool : Pool) (id : RunId) : Pool :=
  if (pool.job? id).all (·.isActive) then pool
  else { pool with table := pool.table.filter (· ≠ id) }

def signal (pool : Pool) (id : RunId) : Pool :=
  match pool.task? id with
  | some task => pool.setTask id task.cancel
  | none => pool

/-- Cancels a run that is active; says whether there is such a run. -/
def cancel (pool : Pool) (id : RunId) : Bool × Pool :=
  if id ∈ pool.table then (true, pool.signal id) else (false, pool)

def active (pool : Pool) : List RunId :=
  pool.table.mergeSort fun a b => decide (a.number ≤ b.number)

/-- The log and the result of a task that has ended. -/
def outcome? (pool : Pool) (id : RunId) : Option (List LogEntry × RunResult) := do
  if id ∈ pool.table then none
  let task ← pool.task? id
  return (task.log, ← task.result?)

end Pool

end Scenario
