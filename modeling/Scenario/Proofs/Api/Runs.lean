import Scenario.Proofs.Api.Happening
import Scenario.Proofs.Runner
/-!
The runs of a service.

A service gives out one id after the other and hands flows over with ids that it has just given out.
So whatever happens to it, the pool of its runner is what some steps make of it, and each of its jobs
has an id that was given out for it.
-/
namespace Scenario.Api

open Handling Pool

/-- The ids that were given out, the first one first. -/
def Service.given (service : Service) : List RunId := (List.range service.issued).map RunId.ofNat

/-- The pool of the service came about by steps that handed flows over with ids given out before. -/
structure Service.Driven (origin : Pool) (service : Service) : Prop where
  steps : ∃ actions, service.runner.toPool = origin.afterAll actions ∧
    (submissions actions).Sublist service.given

variable {origin : Pool} {service : Service}

/-- Steps that hand nothing over may come at any time, and ids may be given out for other ends. -/
theorem Service.Driven.leads (driven : service.Driven origin) {left : Service}
    (leads : service.runner.toPool.Leads left.runner.toPool)
    (ids : service.issued ≤ left.issued) : left.Driven origin := by
  obtain ⟨actions, same, given⟩ := driven.steps
  obtain ⟨later, none, reached⟩ := leads
  refine ⟨actions ++ later, ?_, ?_⟩
  · rw [reached, same, afterAll_append]
  · rw [submissions, List.filterMap_append, ← submissions, ← submissions, none, List.append_nil]
    exact given.trans ((List.range_sublist.mpr ids).map RunId.ofNat)

theorem closed_driven : Closed (Service.Driven origin) := by
  have onDisk {α : Type} (fuel : Nat) (task : FileTask α) :
      Preserves (Service.Driven origin) (onDisk fuel task) :=
    fun service driven => driven.leads (service.runner.leads_settle fuel) (Nat.le_refl _)
  constructor
  · exact fun fuel task _ => onDisk fuel task
  · exact fun fuel _ _ _ _ _ => onDisk fuel _
  · exact fun fuel _ _ _ _ _ _ => onDisk fuel _
  · exact fun fuel _ _ _ => onDisk fuel _
  · exact fun service driven => driven.leads (.refl _) (Nat.le_succ _)
  · intro options loaded service driven
    obtain ⟨actions, same, given⟩ := driven.steps
    refine ⟨actions ++ [.submit (.ofNat service.issued) options service.runner.clock loaded],
      ?_, ?_⟩
    · rw [afterAll_snoc, ← same]
      rfl
    · change (submissions _).Sublist ((List.range (service.issued + 1)).map RunId.ofNat)
      rw [submissions_snoc, List.range_succ, List.map_append]
      exact given.append (.refl _)
  · exact fun service id driven => driven.leads (service.runner.leads_cancel id) (Nat.le_refl _)
  · exact fun service fuel duration driven =>
      driven.leads (service.runner.leads_sleep fuel duration) (Nat.le_refl _)
  · exact fun service fuel id driven =>
      driven.leads (service.runner.leads_finish id fuel) (Nat.le_refl _)

end Scenario.Api
