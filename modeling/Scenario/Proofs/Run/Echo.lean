import Scenario.Run.Result
/-!
Runs that do the same at another time.

No step asks what time it is: it asks how long it has waited and how much time is left. So a run
that is started later, by a clock of its own, does what an earlier one did, as long as it gets the
same replies. It echoes the earlier run, and of what is seen of both only the times differ.
-/
namespace Scenario

/-- The replies that are still to come; none, if nothing is reached. -/
def Transport.script : Transport → Option (List Reply)
  | .offline => none
  | .scripted replies _ => some replies

def LogEntry.undated (entry : LogEntry) : LogEntry := { entry with timestamp := .ofMillis 0 }

section Later

variable (wait : Nat)

def Limits.later (limits : Limits) : Limits := { limits with deadline := limits.deadline + wait }

def Operation.later {α : Type} (operation : Operation α) : Operation α :=
  { operation with due := operation.due + wait }

def Context.later (context : Context) : Context :=
  { context with deadline := context.deadline + wait }

def Suspended.later : Suspended → Suspended
  | .delay duration operation => .delay duration (operation.later wait)
  | .request node sent operation => .request node sent (operation.later wait)

def StepResult.later (result : StepResult) : StepResult :=
  result.map fun done => (done.1, done.2.later wait)

def Progress.later : Progress → Progress
  | .finished result => .finished (StepResult.later wait result)
  | .suspended step => .suspended (step.later wait)

def Phase.later : Phase → Phase
  | .ready => .ready
  | .suspended step => .suspended (step.later wait)
  | .ended ending => .ended { ending with time := ending.time + wait }

def Run.later (run : Run) : Run :=
  { run with
    startedAt := run.startedAt + wait
    context := run.context.later wait
    phase := run.phase.later wait }

/-- The echo does what the run did so many milliseconds before. The clocks of both stood at zero at
times of their own. -/
structure Run.Echoes (run echo : Run) : Prop where
  kept : ∃ epoch log, echo = { run.later wait with epoch, log }
  log : echo.log.map LogEntry.undated = run.log.map LogEntry.undated

end Later

/-- The result without its times and without the id of its run. -/
def RunResult.undated (result : RunResult) : RunResult :=
  { result with runId := .ofNat 0, startedAt := .ofMillis 0, finishedAt := .ofMillis 0 }

variable {wait : Nat}

section Waiting

theorem timerEnd_later (duration now : Nat) :
    timerEnd duration (now + wait) = timerEnd duration now + wait :=
  Nat.add_right_comm now wait _

theorem Limits.interruption?_later (limits : Limits) (now : Nat) :
    (limits.later wait).interruption? (now + wait) = limits.interruption? now := by
  simp [later, interruption?]

theorem Operation.look_later {α : Type} (operation : Operation α) (limits : Limits) (now : Nat) :
    (operation.later wait).look (limits.later wait) (now + wait) = operation.look limits now := by
  rw [look, look, limits.interruption?_later]
  simp [later, Limits.later, Limits.interruption?]

theorem Operation.wake_later {α : Type} (operation : Operation α) (limits : Limits) (now : Nat) :
    (operation.later wait).wake (limits.later wait) (now + wait) =
      operation.wake limits now + wait := by
  simp only [wake, later, Limits.later, Nat.add_lt_add_iff_right, Nat.add_min_add_right]
  split <;> rfl

theorem Suspended.wake_later (step : Suspended) (limits : Limits) (now : Nat) :
    (step.later wait).wake (limits.later wait) (now + wait) = step.wake limits now + wait := by
  cases step with
  | delay duration operation => exact operation.wake_later limits now
  | request node sent operation => exact operation.wake_later limits now

end Waiting

section Steps

variable (wait : Nat) (context : Context) (now : Nat)

theorem Suspended.look_later (step : Suspended) :
    (step.later wait).look (context.later wait) (now + wait) =
      (step.look context now).later wait := by
  have limits : (context.later wait).limits = context.limits.later wait := rfl
  cases step with
  | delay duration operation =>
    simp only [later, look, limits, operation.look_later]
    cases operation.look context.limits now <;> rfl
  | request node sent operation =>
    simp only [later, look, limits, operation.look_later]
    cases operation.look context.limits now with
    | waiting => rfl
    | stopped reason => rfl
    | answered result => cases result <;> rfl

theorem Transport.send_of_script {transport other : Transport}
    (same : other.script = transport.script) (request : Request) (timeout : Nat) :
    (other.send request timeout).1 = (transport.send request timeout).1 ∧
      (other.send request timeout).2.script = (transport.send request timeout).2.script := by
  cases transport with
  | offline =>
    cases other with
    | offline => exact ⟨rfl, rfl⟩
    | scripted replies sent => cases same
  | scripted replies sent =>
    cases other with
    | offline => cases same
    | scripted others sentToo =>
      cases same
      exact ⟨rfl, rfl⟩

variable {transport other : Transport} (same : other.script = transport.script)

include same

theorem Step.start_later (step : Step) (node : String) :
    (step.start node (context.later wait) (now + wait) other).1 =
        (step.start node context now transport).1.later wait ∧
      (step.start node (context.later wait) (now + wait) other).2.script =
        (step.start node context now transport).2.script := by
  have limits : (context.later wait).limits = context.limits.later wait := rfl
  have vars : (context.later wait).vars = context.vars := rfl
  cases step with
  | assertion data => exact ⟨rfl, same⟩
  | output template => exact ⟨rfl, same⟩
  | assignment data =>
    refine ⟨?_, same⟩
    simp only [start, assign]
    split <;> rfl
  | auth data =>
    refine ⟨?_, same⟩
    simp only [start, authenticate, vars]
    cases data.resolve context.vars <;> rfl
  | delay duration =>
    simp only [start, limits, Limits.interruption?_later]
    cases context.limits.interruption? now with
    | some reason => exact ⟨rfl, same⟩
    | none =>
      refine ⟨?_, same⟩
      rw [Operation.sleep, timerEnd_later]
      rfl
  | request data =>
    have credentials : (context.later wait).credentials = context.credentials := rfl
    simp only [start, vars, credentials, limits, Limits.interruption?_later]
    cases data.fill context.vars context.credentials with
    | error fault => exact ⟨rfl, same⟩
    | ok filled =>
      cases context.limits.interruption? now with
      | some reason => exact ⟨rfl, same⟩
      | none =>
        have remaining : (context.limits.later wait).remaining (now + wait) =
            context.limits.remaining now := Nat.add_sub_add_right ..
        obtain ⟨reply, script⟩ :=
          Transport.send_of_script same filled (context.limits.remaining now)
        simp only [remaining, reply, timerEnd_later]
        exact ⟨rfl, script⟩

theorem Node.start_later (handler : Kind) (node : Node) :
    (node.start handler (context.later wait) (now + wait) other).1 =
        (node.start handler context now transport).1.later wait ∧
      (node.start handler (context.later wait) (now + wait) other).2.script =
        (node.start handler context now transport).2.script := by
  unfold start
  by_cases own : node.kind = handler
  · obtain ⟨progress, script⟩ :=
      Step.start_later wait context now same node.step node.id
    rw [if_pos own, if_pos own]
    generalize node.step.start node.id (context.later wait) (now + wait) other = echo at *
    generalize node.step.start node.id context now transport = started at *
    obtain ⟨first, left⟩ := started
    obtain ⟨second, leftToo⟩ := echo
    cases progress
    cases first with
    | finished result => exact ⟨rfl, script⟩
    | suspended step => exact ⟨step.look_later wait context now, script⟩
  · rw [if_neg own, if_neg own]
    exact ⟨rfl, same⟩

end Steps

namespace Run.Echoes

variable {run echo : Run} (echoes : run.Echoes wait echo) (now : Nat)

include echoes

theorem node : echo.node = run.node := by
  obtain ⟨⟨epoch, log, rfl⟩, -⟩ := echoes
  rfl

theorem context : echo.context = run.context.later wait := by
  obtain ⟨⟨epoch, log, rfl⟩, -⟩ := echoes
  rfl

theorem phase : echo.phase = run.phase.later wait := by
  obtain ⟨⟨epoch, log, rfl⟩, -⟩ := echoes
  rfl

theorem wake? : echo.wake? (now + wait) = (run.wake? now).map (· + wait) := by
  rw [Run.wake?, Run.wake?, echoes.phase, echoes.context]
  cases run.phase with
  | ready => rfl
  | suspended step => exact congrArg some (step.wake_later run.context.limits now)
  | ended ending => rfl

theorem write (line : Line) :
    (run.write now line).Echoes wait (echo.write (now + wait) line) := by
  obtain ⟨⟨epoch, log, rfl⟩, same⟩ := echoes
  refine ⟨⟨epoch, _, rfl⟩, ?_⟩
  simp only [Run.write, List.map_append, same]
  rfl

theorem finish (outcome : Outcome) (error : Option RunError) :
    (run.finish now outcome error).Echoes wait (echo.finish (now + wait) outcome error) := by
  obtain ⟨⟨epoch, log, rfl⟩, same⟩ := echoes
  exact ⟨⟨epoch, log, rfl⟩, same⟩

theorem stop (e : StepError) : (run.stop now e).Echoes wait (echo.stop (now + wait) e) := by
  cases e with
  | interrupted reason =>
    cases reason with
    | cancelled =>
      rw [Run.stop, Run.stop, echoes.node]
      exact (echoes.write now _).finish now _ _
    | timedOut =>
      rw [Run.stop, Run.stop, echoes.context]
      exact (echoes.write now _).finish now _ _
  | requestFailed failure => exact (echoes.write now _).finish now _ _
  | invalid fault => exact (echoes.write now _).finish now _ _
  | defect e => exact (echoes.write now _).finish now _ _

theorem advance (line : Option Line) (branch : Option Bool) :
    (run.advance now line branch).Echoes wait (echo.advance (now + wait) line branch) := by
  have next : echo.graph.next echo.node branch = run.graph.next run.node branch := by
    obtain ⟨⟨epoch, log, rfl⟩, -⟩ := echoes
    rfl
  have written : (line.elim run (run.write now)).Echoes wait
      (line.elim echo (echo.write (now + wait))) := by
    cases line with
    | none => exact echoes
    | some line => exact echoes.write now line
  rw [Run.advance, Run.advance, next]
  cases run.graph.next run.node branch with
  | error e => exact (echoes.write now _).finish now _ _
  | ok next =>
    cases next with
    | none => exact written.finish now _ _
    | some node =>
      obtain ⟨⟨epoch, log, kept⟩, same⟩ := written
      refine ⟨⟨epoch, log, ?_⟩, same⟩
      dsimp only
      rw [kept]
      rfl

theorem proceed (progress : Progress) :
    (run.proceed now progress).Echoes wait (echo.proceed (now + wait) (progress.later wait)) := by
  cases progress with
  | suspended step =>
    obtain ⟨⟨epoch, log, rfl⟩, same⟩ := echoes
    exact ⟨⟨epoch, log, rfl⟩, same⟩
  | finished result =>
    cases result with
    | ok done =>
      have taken : { run with context := done.2 }.Echoes wait
          { echo with context := done.2.later wait } := by
        obtain ⟨⟨epoch, log, rfl⟩, same⟩ := echoes
        exact ⟨⟨epoch, log, rfl⟩, same⟩
      exact taken.advance now _ _
    | error e =>
      cases e with
      | requestFailed failure =>
        have counted : { run with tolerated := run.tolerated + 1 }.Echoes wait
            { echo with tolerated := echo.tolerated + 1 } := by
          obtain ⟨⟨epoch, log, rfl⟩, same⟩ := echoes
          exact ⟨⟨epoch, log, rfl⟩, same⟩
        have counts : echo.tolerated = run.tolerated ∧ echo.tolerance = run.tolerance := by
          obtain ⟨⟨epoch, log, rfl⟩, -⟩ := echoes
          exact ⟨rfl, rfl⟩
        have goesOn := counted.advance now
          (some (toleratedLine (run.tolerated + 1) run.tolerance failure)) none
        have stops := echoes.stop now (.requestFailed failure)
        simp only [Run.proceed, Progress.later, StepResult.later, Except.map, counts] at goesOn ⊢
        split
        · exact goesOn
        · exact stops
      | interrupted reason => exact echoes.stop now (.interrupted reason)
      | invalid fault => exact echoes.stop now (.invalid fault)
      | defect e => exact echoes.stop now (.defect e)

variable {transport other : Transport} (script : other.script = transport.script)

include script

theorem dispatch :
    (run.dispatch now transport).1.Echoes wait (echo.dispatch (now + wait) other).1 ∧
      (echo.dispatch (now + wait) other).2.script = (run.dispatch now transport).2.script := by
  have registry : echo.registry = run.registry := by
    obtain ⟨⟨epoch, log, rfl⟩, -⟩ := echoes
    rfl
  have limits : (run.context.later wait).limits = run.context.limits.later wait := rfl
  rw [Run.dispatch, Run.dispatch, echoes.context, echoes.node, registry, limits,
    Limits.interruption?_later]
  cases run.context.limits.interruption? now with
  | some reason => exact ⟨echoes.stop now (.interrupted reason), script⟩
  | none =>
    cases run.registry.get run.node.kind with
    | error e => exact ⟨echoes.stop now (.defect e), script⟩
    | ok handler =>
      obtain ⟨progress, left⟩ :=
        Node.start_later wait run.context now script handler run.node
      dsimp only
      rw [progress]
      exact ⟨echoes.proceed now _, left⟩

/-- A look at the echo, so much later, shows what a look at the run does. -/
theorem poll :
    (run.poll now transport).1.Echoes wait (echo.poll (now + wait) other).1 ∧
      (echo.poll (now + wait) other).2.script = (run.poll now transport).2.script := by
  rw [Run.poll, Run.poll, echoes.phase]
  cases run.phase with
  | ready => exact echoes.dispatch now script
  | suspended step =>
    simp only [Phase.later, echoes.context, step.look_later]
    exact ⟨echoes.proceed now _, script⟩
  | ended ending => exact ⟨echoes, script⟩

end Run.Echoes

namespace Run

theorem echoes_start (graph : Graph) (registry : Registry) (tolerance : UInt32)
    (epoch other : Nat) (vars : Variables) (timeout : UInt64) (now wait : Nat) :
    (start graph registry tolerance epoch vars timeout now).Echoes wait
      (start graph registry tolerance other vars timeout (now + wait)) := by
  refine ⟨⟨other, [], ?_⟩, rfl⟩
  simp only [start, later, Context.start, Context.later, Phase.later,
    Nat.add_right_comm now wait timeout.toNat]

variable {run echo : Run} (echoes : run.Echoes wait echo)

include echoes

theorem Echoes.ending?_eq_none_iff : echo.ending? = none ↔ run.ending? = none := by
  rw [ending?, ending?, echoes.phase]
  cases run.phase <;> simp [Phase.later]

/-- Both end in the same way, and all that the results say but ids and times is the same. -/
theorem Echoes.result? (id other : RunId) :
    ((Job.accepted echo).result? other).map RunResult.undated =
      ((Job.accepted run).result? id).map RunResult.undated := by
  obtain ⟨⟨epoch, log, rfl⟩, -⟩ := echoes
  simp only [Job.result?, ending?, later]
  cases run.phase <;> rfl

end Run

end Scenario
