import Scenario.Proofs.Pool
import Scenario.Runner
/-!
A runner drives a pool.

Whatever a runner does, what becomes of its pool is what some steps make of it: looks at runs and
the ends of their tasks, and, when it is asked to, one flow that is handed over or one run that is
cancelled. So all that holds of pools holds of the runs of a runner.
-/
namespace Scenario

namespace Pool

/-- Some steps lead from one pool to the other, and nothing is handed over by them. -/
def Leads (pool left : Pool) : Prop :=
  ∃ actions, submissions actions = [] ∧ left = pool.afterAll actions

theorem Leads.refl (pool : Pool) : pool.Leads pool := ⟨[], rfl, rfl⟩

theorem Leads.trans {pool between left : Pool} (first : pool.Leads between)
    (second : between.Leads left) : pool.Leads left := by
  obtain ⟨actions, none, rfl⟩ := first
  obtain ⟨later, noneLater, rfl⟩ := second
  refine ⟨actions ++ later, ?_, (pool.afterAll_append actions later).symm⟩
  rw [submissions, List.filterMap_append, ← submissions, ← submissions, none, noneLater]
  rfl

end Pool

namespace Runner

open Pool (Leads)

variable (runner : Runner)

theorem leads_pollRun (id : RunId) : runner.toPool.Leads (runner.pollRun id).2.toPool := by
  refine ⟨[.look id runner.clock runner.transport, .leave id], rfl, ?_⟩
  unfold pollRun
  dsimp only
  split
  · split <;> rfl
  · rfl

theorem leads_look (id : RunId) : runner.toPool.Leads (runner.look id).2.toPool := by
  unfold look
  split
  · split
    · exact .refl _
    · exact runner.leads_pollRun id
  · exact .refl _

theorem leads_lookAll (gaveWay ids : List RunId) :
    runner.toPool.Leads (runner.lookAll gaveWay ids).2.toPool := by
  induction ids generalizing runner gaveWay with
  | nil => exact .refl _
  | cons id rest ih => exact (runner.leads_look id).trans (ih _ _)

theorem leads_round : runner.toPool.Leads runner.round.toPool :=
  leads_lookAll { runner with queue := [] } [] runner.queue

theorem leads_settle (fuel : Nat) : runner.toPool.Leads (settle fuel runner).toPool := by
  induction fuel generalizing runner with
  | zero => exact .refl _
  | succ fuel ih =>
    unfold settle
    split
    · exact .refl _
    · exact runner.leads_round.trans (ih _)

theorem leads_runUntil (time fuel : Nat) :
    runner.toPool.Leads (runUntil time fuel runner).toPool := by
  induction fuel generalizing runner with
  | zero => exact .refl _
  | succ fuel ih =>
    unfold runUntil
    split
    · exact runner.leads_round.trans (ih _)
    · split
      · split
        · exact ih (runner.advanceTo _)
        · exact .refl _
      · exact .refl _

theorem leads_sleep (fuel duration : Nat) :
    runner.toPool.Leads (runner.sleep fuel duration).toPool := by
  unfold sleep
  split
  · exact .refl _
  · exact runner.leads_runUntil _ fuel

theorem leads_finish (id : RunId) (fuel : Nat) :
    runner.toPool.Leads (finish id fuel runner).toPool := by
  induction fuel generalizing runner with
  | zero => exact .refl _
  | succ fuel ih =>
    unfold finish
    split
    · exact .refl _
    split
    · exact runner.leads_round.trans (ih _)
    · split
      · exact ih (runner.advanceTo _)
      · exact .refl _

theorem leads_cancel (id : RunId) : runner.toPool.Leads (runner.cancel id).2.toPool := by
  refine ⟨[.cancel id], rfl, ?_⟩
  unfold cancel
  dsimp only
  split <;> rfl

end Runner

end Scenario
