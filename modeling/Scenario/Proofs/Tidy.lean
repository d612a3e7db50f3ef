import Scenario.Proofs.Runner
/-!
Tables without runs that have ended.

A runner that looks at a run lets its task end at once, if the run has. So the runs in its table are
those that go on, and what it delivers of a job is there as soon as the job has a result.
-/
namespace Scenario

theorem Job.isActive_cancel (job : Job) : job.cancel.isActive = job.isActive := by
  cases job <;> rfl

theorem Job.result?_of_isActive {job : Job} (active : job.isActive = true) (id : RunId) :
    job.result? id = none := by
  cases job with
  | rejected => cases active
  | accepted run =>
    have going : run.ending? = none := Option.isNone_iff_eq_none.mp active
    rw [Job.result?, going]
    rfl

namespace Pool

/-- No run in the table has ended. -/
def Tidy (pool : Pool) : Prop :=
  ∀ id ∈ pool.table, ∃ job, pool.job? id = some job ∧ job.isActive = true

variable {pool : Pool} {id : RunId}

/-- A run that ends when it is looked at leaves the table before anything else happens. -/
theorem Tidy.turn (tidy : pool.Tidy) (id : RunId) (now : Nat) (transport : Transport) :
    ((pool.look id now transport).1.leave id).Tidy := by
  intro other member
  rw [mem_table_leave, table_look] at member
  obtain ⟨listed, stays⟩ := member
  obtain ⟨job, found, active⟩ := tidy other listed
  rw [job?_leave, job?_look]
  by_cases asked : other = id
  · subst asked
    refine ⟨(job.poll now transport).1, by simp [found], ?_⟩
    by_contra stopped
    refine stays ⟨rfl, (job.poll now transport).1, ?_, by simpa using stopped⟩
    simp [job?_look, found]
  · exact ⟨job, by rw [if_neg asked, found], active⟩

theorem Tidy.cancel (tidy : pool.Tidy) (id : RunId) : (pool.cancel id).2.Tidy := by
  intro other member
  rw [table_cancel] at member
  obtain ⟨job, found, active⟩ := tidy other member
  rw [job?_cancel]
  split
  · rename_i asked
    obtain ⟨rfl, -⟩ := asked
    exact ⟨job.cancel, by rw [found]; rfl, job.isActive_cancel.trans active⟩
  · exact ⟨job, found, active⟩

theorem Tidy.submit (tidy : pool.Tidy) (fresh : pool.job? id = none) (options : RunOptions)
    (now : Nat) (loaded : Except FlowError (Option Flow)) :
    (pool.submit id options now loaded).Tidy := by
  intro other member
  rw [job?_submit]
  rcases (mem_table_submit ..).mp member with listed | ⟨rfl, active⟩
  · obtain ⟨job, found, active⟩ := tidy other listed
    exact ⟨job, by rw [found]; rfl, active⟩
  · exact ⟨_, by rw [fresh, if_pos rfl]; rfl, active⟩

/-- What a tidy pool delivers of a task is its log and its result, as soon as there is one. -/
theorem Tidy.outcome?_eq (tidy : pool.Tidy) {task : RunTask} (found : pool.task? id = some task) :
    pool.outcome? id = task.result?.map (task.log, ·) := by
  unfold outcome?
  by_cases listed : id ∈ pool.table
  · obtain ⟨job, same, active⟩ := tidy id listed
    rw [job?, found] at same
    cases same
    simp [listed, RunTask.result?, Job.result?_of_isActive active]
  · cases reported : task.result? <;> simp [listed, found, reported]

end Pool

namespace Runner

section Keeping

variable {holds : Pool → Prop} (turn : ∀ pool id now transport, holds pool →
  holds ((pool.look id now transport).1.leave id))
include turn

-- The runner looks at a run and lets its task end in one go, and does nothing else to its pool.

theorem holds_look {runner : Runner} (before : holds runner.toPool) (id : RunId) :
    holds (runner.look id).2.toPool := by
  have polled : holds (runner.pollRun id).2.toPool := by
    have left := turn runner.toPool id runner.clock runner.transport before
    unfold pollRun
    dsimp only
    split
    · split <;> exact left
    · exact left
  unfold look
  split
  · split
    · exact before
    · exact polled
  · exact before

theorem holds_round {runner : Runner} (before : holds runner.toPool) :
    holds runner.round.toPool := by
  have all (ids gaveWay : List RunId) (runner : Runner) (before : holds runner.toPool) :
      holds (runner.lookAll gaveWay ids).2.toPool := by
    induction ids generalizing runner gaveWay with
    | nil => exact before
    | cons id rest ih => exact ih _ _ (holds_look turn before id)
  exact all runner.queue [] { runner with queue := [] } before

theorem holds_settle {runner : Runner} (before : holds runner.toPool) (fuel : Nat) :
    holds (settle fuel runner).toPool := by
  induction fuel generalizing runner with
  | zero => exact before
  | succ fuel ih =>
    unfold settle
    split
    · exact before
    · exact ih (holds_round turn before)

theorem holds_sleep {runner : Runner} (before : holds runner.toPool) (fuel duration : Nat) :
    holds (runner.sleep fuel duration).toPool := by
  have until_ (time : Nat) : holds (runUntil time fuel runner).toPool := by
    induction fuel generalizing runner with
    | zero => exact before
    | succ fuel ih =>
      unfold runUntil
      split
      · exact ih (holds_round turn before)
      · split
        · split
          · exact @ih (runner.advanceTo _) before
          · exact before
        · exact before
  unfold sleep
  split
  · exact before
  · exact until_ _

theorem holds_finish {runner : Runner} (before : holds runner.toPool) (id : RunId) (fuel : Nat) :
    holds (finish id fuel runner).toPool := by
  induction fuel generalizing runner with
  | zero => exact before
  | succ fuel ih =>
    unfold finish
    split
    · exact before
    split
    · exact ih (holds_round turn before)
    · split
      · exact @ih (runner.advanceTo _) before
      · exact before

end Keeping

theorem toPool_cancel (runner : Runner) (id : RunId) :
    (runner.cancel id).2.toPool = (runner.toPool.cancel id).2 := by
  unfold cancel
  dsimp only
  split <;> rfl

end Runner

end Scenario
