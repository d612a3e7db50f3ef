import Scenario.Proofs.Pool
import Scenario.Proofs.Run.Echo
import Scenario.Runner
/-!
A runner with one run.

A runner that has only one run to look after is in one of four situations, and goes from one to the
next by looking at the run or by setting its clock to the time at which the run wakes. Two such
runners whose runs echo each other go through the same situations, and report the same.
-/
namespace Scenario

/-- How it stands with the only run of a runner: nobody looked at it yet, it can go on, it is
suspended, or there is nothing left to do. -/
inductive Standing where
  | fresh
  | ready
  | asleep
  | ended

namespace Standing

variable (id : RunId)

def newcomers : Standing → List RunId
  | .fresh => [id]
  | _ => []

def queue : Standing → List RunId
  | .fresh | .ready => [id]
  | _ => []

def waiting : Standing → List RunId
  | .asleep => [id]
  | _ => []

end Standing

def Phase.standing : Phase → Standing
  | .ready => .ready
  | .suspended _ => .asleep
  | .ended _ => .ended

theorem Phase.standing_later (phase : Phase) (wait : Nat) :
    (phase.later wait).standing = phase.standing := by
  cases phase <;> rfl

namespace Runner

structure Idle (runner : Runner) : Prop where
  newcomers : runner.newcomers = []
  queue : runner.queue = []
  waiting : runner.waiting = []

/-- The run is the only one that there is something to do for. -/
structure Alone (runner : Runner) (id : RunId) (run : Run) (standing : Standing) : Prop where
  task : runner.task? id = some ⟨id, .accepted run⟩
  active : id ∈ runner.table ↔ run.ending? = none
  newcomers : runner.newcomers = standing.newcomers id
  queue : runner.queue = standing.queue id
  waiting : runner.waiting = standing.waiting id

variable {runner : Runner} {id : RunId} {run : Run} {standing : Standing}

theorem Alone.job (alone : runner.Alone id run standing) :
    runner.job? id = some (.accepted run) := by
  rw [Pool.job?, alone.task]
  rfl

theorem Idle.settle (idle : runner.Idle) (fuel : Nat) : Runner.settle fuel runner = runner := by
  cases fuel with
  | zero => rfl
  | succ fuel => rw [Runner.settle, idle.queue, List.isEmpty_nil, if_pos rfl]

/-- A run that is handed over to a runner with nothing to do is its only one. -/
theorem Idle.submit (idle : runner.Idle) (unused : runner.job? id = none) {options : RunOptions}
    {loaded : Except FlowError (Option Flow)}
    (accepted : runner.newJob options runner.clock loaded = .accepted run)
    (active : run.ending? = none) : (runner.submit id options loaded).Alone id run .fresh := by
  have spawned : (runner.newJob options runner.clock loaded).isActive = true := by
    simp [accepted, Job.isActive, active]
  constructor
  · change (runner.toPool.submit id options runner.clock loaded).task? id = _
    rw [Pool.task?_submit, Option.map_eq_none_iff.mp unused, if_pos rfl, accepted]
    rfl
  · refine iff_of_true ?_ active
    exact (Pool.mem_table_submit runner.toPool id id options runner.clock loaded).mpr
      (.inr ⟨rfl, spawned⟩)
  · simp [Runner.submit, idle.newcomers, Standing.newcomers]
  · simp [Runner.submit, idle.queue, Standing.queue]
  · exact idle.waiting

/-- The first look at a run only makes it give way. -/
theorem Alone.round_of_fresh (alone : runner.Alone id run .fresh) :
    runner.round.Alone id run .ready ∧ runner.round.clock = runner.clock ∧
      runner.round.transport = runner.transport := by
  have job := alone.job
  obtain ⟨task, active, newcomers, queue, waiting⟩ := alone
  have round : runner.round = { runner with newcomers := [], queue := [id] } := by
    simp [Runner.round, lookAll, look, job, newcomers, queue, Standing.newcomers, Standing.queue]
  rw [round]
  exact ⟨⟨task, active, rfl, rfl, waiting⟩, rfl, rfl⟩

/-- Every other one is a look at the run itself. -/
theorem Alone.round_of_ready (alone : runner.Alone id run .ready) :
    runner.round.Alone id (run.poll runner.clock runner.transport).1
        (run.poll runner.clock runner.transport).1.phase.standing ∧
      runner.round.clock = runner.clock ∧
      runner.round.transport = (run.poll runner.clock runner.transport).2 := by
  have job := alone.job
  obtain ⟨task, active, newcomers, queue, waiting⟩ := alone
  generalize polled : run.poll runner.clock runner.transport = after
  obtain ⟨run', transport⟩ := after
  have looked : runner.toPool.look id runner.clock runner.transport =
      (runner.toPool.setTask id ⟨id, .accepted run'⟩, transport) := by
    simp only [Pool.look, task, RunTask.poll, Job.poll, polled]
  let pool := (runner.toPool.setTask id ⟨id, .accepted run'⟩).leave id
  have stands : (runner.toPool.setTask id ⟨id, .accepted run'⟩).task? id =
      some ⟨id, .accepted run'⟩ := by
    rw [Pool.task?_setTask, if_pos rfl, task]
    rfl
  have found : (runner.toPool.setTask id ⟨id, .accepted run'⟩).job? id =
      some (.accepted run') := by
    rw [Pool.job?, stands]
    rfl
  have round : runner.round =
      { runner with
        toPool := pool, transport, newcomers := [],
        queue := run'.phase.standing.queue id, waiting := run'.phase.standing.waiting id } := by
    simp only [Runner.round, queue, Standing.queue, lookAll, look, job, newcomers,
      Standing.newcomers, pollRun, looked, found]
    cases run'.phase <;> simp [Phase.standing, Standing.waiting, waiting, pool]
  rw [round]
  refine ⟨⟨?_, ?_, ?_, rfl, rfl⟩, rfl, rfl⟩
  · exact (Pool.task?_leave _ id id).trans stands
  · have left : (runner.toPool.setTask id ⟨id, .accepted run'⟩).Ended id ↔ ¬ run'.ending? = none := by
      simp [Pool.Ended, found, Job.isActive, Option.isSome_iff_ne_none]
    have ending : run'.ending? = none → run.ending? = none := by
      intro goesOn
      cases ended : run.ending? with
      | none => rfl
      | some ending =>
        have same := Job.poll_of_ended (by rw [ended]; rfl) runner.clock runner.transport
        rw [polled] at same
        rw [← ended, ← goesOn, ← same]
    rw [Pool.mem_table_leave, left]
    simp only [true_and, not_not]
    exact ⟨And.right, fun goesOn => ⟨active.mpr (ending goesOn), goesOn⟩⟩
  · cases run'.phase <;> rfl

theorem Alone.wake?_eq (alone : runner.Alone id run standing) :
    runner.wake? id = run.wake? runner.clock := by
  rw [Runner.wake?, alone.job]

theorem Alone.nextTime?_eq (alone : runner.Alone id run .asleep) :
    runner.nextTime? = run.wake? runner.clock := by
  rw [nextTime?, alone.waiting, Standing.waiting, List.filterMap_cons, alone.wake?_eq]
  cases run.wake? runner.clock <;> rfl

theorem Alone.advanceTo (alone : runner.Alone id run .asleep) {time : Nat}
    (wakes : run.wake? runner.clock = some time) :
    (runner.advanceTo time).Alone id run .ready ∧ (runner.advanceTo time).clock = time ∧
      (runner.advanceTo time).transport = runner.transport := by
  have woken : runner.wake? id = some time := alone.wake?_eq.trans wakes
  obtain ⟨task, active, newcomers, queue, waiting⟩ := alone
  refine ⟨⟨task, active, newcomers, ?_, ?_⟩, rfl, rfl⟩
  · simp [Runner.advanceTo, queue, waiting, woken, Standing.queue, Standing.waiting]
  · simp [Runner.advanceTo, waiting, woken, Standing.waiting]

theorem Alone.hasEnded_eq (alone : runner.Alone id run standing) :
    runner.hasEnded id = (id ∉ standing.newcomers id && run.ending?.isSome) := by
  rw [hasEnded, alone.task, alone.newcomers]
  simp [RunTask.result?, Job.result?]

theorem Alone.outcome?_eq (alone : runner.Alone id run standing) :
    runner.outcome? id = ((Job.accepted run).result? id).map (run.log, ·) := by
  simp only [Pool.outcome?, alone.task, alone.active]
  cases ended : run.ending? with
  | none => simp [Job.result?, ended]
  | some ending => simp [RunTask.result?, RunTask.log, Job.result?, Job.log, ended]

/-- Both have one run to look after, with which it stands the same, and the second run echoes the
first. -/
structure Echoes (wait : Nat) (id other : RunId) (runner echo : Runner) : Prop where
  runs : ∃ run later standing, runner.Alone id run standing ∧ echo.Alone other later standing ∧
    run.Echoes wait later
  clock : echo.clock = runner.clock + wait
  script : echo.transport.script = runner.transport.script

variable {wait : Nat} {other : RunId} {echo : Runner}

theorem Echoes.finish (echoes : runner.Echoes wait id other echo) (fuel : Nat) :
    (Runner.finish id fuel runner).Echoes wait id other (Runner.finish other fuel echo) := by
  induction fuel generalizing runner echo with
  | zero => exact echoes
  | succ fuel ih =>
    obtain ⟨⟨run, later, standing, alone, follows, same⟩, clock, script⟩ := echoes
    have ended : echo.hasEnded other = runner.hasEnded id := by
      rw [alone.hasEnded_eq, follows.hasEnded_eq, Bool.eq_iff_iff]
      cases standing <;>
        simp [Standing.newcomers, Option.isSome_iff_ne_none, same.ending?_eq_none_iff]
    rw [Runner.finish, Runner.finish, ended]
    cases runner.hasEnded id with
    | true => exact ⟨⟨run, later, standing, alone, follows, same⟩, clock, script⟩
    | false =>
      simp only [alone.queue, follows.queue]
      cases standing with
      | fresh =>
        obtain ⟨ready, kept, transport⟩ := alone.round_of_fresh
        obtain ⟨readyToo, keptToo, transportToo⟩ := follows.round_of_fresh
        apply ih
        refine ⟨⟨run, later, .ready, ready, readyToo, same⟩, ?_, ?_⟩
        · rw [keptToo, kept, clock]
        · rw [transportToo, transport, script]
      | ready =>
        obtain ⟨looked, kept, transport⟩ := alone.round_of_ready
        obtain ⟨lookedToo, keptToo, transportToo⟩ := follows.round_of_ready
        obtain ⟨polled, served⟩ := same.poll runner.clock script
        rw [clock] at lookedToo transportToo
        apply ih
        refine ⟨⟨_, _, _, looked, ?_, polled⟩, ?_, ?_⟩
        · rwa [polled.phase, Phase.standing_later] at lookedToo
        · rw [keptToo, kept, clock]
        · rw [transportToo, transport, served]
      | asleep =>
        have wakes := same.wake? runner.clock
        rw [alone.nextTime?_eq, follows.nextTime?_eq, clock, wakes]
        cases next : run.wake? runner.clock with
        | none => exact ⟨⟨run, later, .asleep, alone, follows, same⟩, clock, script⟩
        | some time =>
          rw [next] at wakes
          obtain ⟨ready, kept, transport⟩ := alone.advanceTo next
          obtain ⟨readyToo, keptToo, transportToo⟩ := follows.advanceTo (clock ▸ wakes)
          apply ih
          refine ⟨⟨run, later, .ready, ready, readyToo, same⟩, ?_, ?_⟩
          · rw [keptToo, kept]
          · rw [transportToo, transport, script]
      | ended =>
        have stopped : runner.nextTime? = none := by
          rw [nextTime?, alone.waiting]
          rfl
        have stoppedToo : echo.nextTime? = none := by
          rw [nextTime?, follows.waiting]
          rfl
        rw [stopped, stoppedToo]
        exact ⟨⟨run, later, .ended, alone, follows, same⟩, clock, script⟩

/-- What is seen of a job of one runner and of a job of another differs in ids and times alone: the
lines so far, and the report when the job has ended. -/
structure SeenAlike (id other : RunId) (runner peer : Runner) : Prop where
  log : (peer.job? other).map (fun job => job.log.map LogEntry.undated) =
    (runner.job? id).map fun job => job.log.map LogEntry.undated
  outcome : (peer.outcome? other).map (Prod.map (·.map LogEntry.undated) RunResult.undated) =
    (runner.outcome? id).map (Prod.map (·.map LogEntry.undated) RunResult.undated)

theorem Echoes.seenAlike (echoes : runner.Echoes wait id other echo) :
    SeenAlike id other runner echo := by
  obtain ⟨⟨run, later, standing, alone, follows, same⟩, -⟩ := echoes
  constructor
  · rw [alone.job, follows.job]
    exact congrArg some same.log
  · have report (run : Run) (result : Option RunResult) :
        (result.map (run.log, ·)).map (Prod.map (·.map LogEntry.undated) RunResult.undated) =
          (result.map RunResult.undated).map (run.log.map LogEntry.undated, ·) := by
      cases result <;> rfl
    rw [alone.outcome?_eq, follows.outcome?_eq, report, report, same.result? id other, same.log]

/-- Both runners have nothing to do, carry out steps in the same way, and get the same replies. -/
structure Peers (runner peer : Runner) : Prop where
  idle : runner.Idle
  peerIdle : peer.Idle
  registry : peer.registry = runner.registry
  tolerance : peer.tolerance = runner.tolerance
  script : peer.transport.script = runner.transport.script

section Peers

variable {peer : Runner} (peers : runner.Peers peer)

include peers

theorem Peers.symm : peer.Peers runner :=
  ⟨peers.peerIdle, peers.idle, peers.registry.symm, peers.tolerance.symm, peers.script.symm⟩

variable (unused : runner.job? id = none) (unusedToo : peer.job? other = none)
  (options : RunOptions) {loaded : Except FlowError (Option Flow)} {graph : Graph}
  (made : graphToRun loaded = .ok graph)

include unused unusedToo made

theorem Peers.submit (clock : peer.clock = runner.clock + wait) :
    (runner.submit id options loaded).Echoes wait id other (peer.submit other options loaded) := by
  have accepted (runner : Runner) : runner.newJob options runner.clock loaded =
      .accepted (.start graph runner.registry runner.tolerance runner.epoch options.vars
        options.timeout runner.clock) := by
    rw [Pool.newJob, Job.start, made]
  refine ⟨⟨_, _, .fresh, peers.idle.submit unused (accepted runner) rfl,
    peers.peerIdle.submit unusedToo (accepted peer) rfl, ?_⟩, clock, peers.script⟩
  rw [peers.registry, peers.tolerance, clock]
  exact Run.echoes_start ..

/-- A flow that makes a graph is run by both in the same way, whatever their clocks say. -/
theorem Peers.seenAlike (fuel : Nat) :
    SeenAlike id other (Runner.finish id fuel (runner.submit id options loaded))
      (Runner.finish other fuel (peer.submit other options loaded)) := by
  rcases Nat.le_total runner.clock peer.clock with earlier | later
  · have clock := (Nat.add_sub_cancel' earlier).symm
    exact ((peers.submit unused unusedToo options made clock).finish fuel).seenAlike
  · have clock := (Nat.add_sub_cancel' later).symm
    obtain ⟨log, outcome⟩ :=
      ((peers.symm.submit unusedToo unused options made clock).finish fuel).seenAlike
    exact ⟨log.symm, outcome.symm⟩

end Peers

end Runner

end Scenario
