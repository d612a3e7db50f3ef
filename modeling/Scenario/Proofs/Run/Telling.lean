import Scenario.Proofs.Run.World
/-!
What there is to tell of visits.

A run leaves its visits behind, one after the other, as it moves on. Of those that it has left
behind there is something to tell if the step reported something, and if its request failed; `Told`
says that a list of entries tells all this and nothing else.
-/
namespace Scenario

/-- Steps of this kind report what they have done. -/
def Kind.reports : Kind → Bool
  | .request | .assertion | .delay | .output => true
  | .assignment | .auth => false

theorem Step.Does.reports {step : Step} {node : String} {context after : Context} {now : Nat}
    {transport : Transport} {report : StepReport}
    (does : step.Does node context now transport report after) :
    report.summary.isSome = step.kind.reports := by
  cases does <;> rfl

namespace Visit

/-- The entry is about the visit: what its step reported, or the failure that was tolerated. -/
inductive Tells (visit : Visit) : LogEntry → Prop where
  | done (timestamp : Timestamp) {summary : String} {payload : Option Json.Value}
    {branch : Option Bool} {after : Context} :
    visit.result = some (.ok (⟨some summary, payload, branch⟩, after)) →
    Tells visit ⟨timestamp, .info, summary, some visit.node.ref, payload⟩
  | tolerated (timestamp : Timestamp) (message : String) {failure : RequestFailure} :
    visit.result = some (.error (.requestFailed failure)) →
    Tells visit ⟨timestamp, .error, message, some visit.node.ref, some failure.encode⟩

/-- There is something to tell of the visit. -/
def speaks (visit : Visit) : Bool :=
  match visit.result with
  | some (.ok (report, _)) => report.summary.isSome
  | some (.error (.requestFailed _)) => true
  | some (.error _) | none => false

/-- The same, but told by the kind of the step. -/
def isTold (visit : Visit) : Bool :=
  visit.failed || visit.finished && visit.node.kind.reports

theorem tells_report (visit : Visit) {run : Run} (now : Nat) (same : visit.node = run.node)
    {report : StepReport} {after : Context} (isResult : visit.result = some (.ok (report, after))) :
    List.Forall₂ Tells ([visit].filter speaks)
      ((Run.reportLine report).toList.map (run.entryOf now)) := by
  obtain ⟨summary, payload, branch⟩ := report
  cases summary with
  | none => simp [speaks, isResult, Run.reportLine]
  | some summary =>
    have speaks : visit.speaks = true := by simp [Visit.speaks, isResult]
    rw [List.filter_cons_of_pos speaks, List.filter_nil]
    refine .cons ?_ .nil
    rw [Run.entryOf, ← same]
    exact .done _ isResult

theorem tells_failure (visit : Visit) {run : Run} (count now : Nat)
    (same : visit.node = run.node) {failure : RequestFailure}
    (isResult : visit.result = some (.error (.requestFailed failure))) :
    List.Forall₂ Tells ([visit].filter speaks)
      ((some (Run.toleratedLine count run.tolerance failure)).toList.map (run.entryOf now)) := by
  have speaks : visit.speaks = true := by simp [Visit.speaks, isResult]
  rw [List.filter_cons_of_pos speaks, List.filter_nil]
  refine .cons ?_ .nil
  rw [Run.entryOf, ← same]
  exact .tolerated _ _ isResult

theorem Tells.level_iff {visit : Visit} {entry : LogEntry} (tells : visit.Tells entry) :
    entry.level = .error ↔ visit.failed = true := by
  cases tells with
  | done timestamp isResult => simp [failed, isResult]
  | tolerated timestamp message isResult => simp [failed, isResult]

theorem speaks_of_failed {visit : Visit} (failed : visit.failed = true) : visit.speaks = true := by
  unfold Visit.failed at failed
  unfold speaks
  split at failed
  · rename_i isResult
    rw [isResult]
  · cases failed

theorem speaks_eq_isTold {world : World} {visit : Visit} (admits : world.Admits visit) :
    visit.speaks = visit.isTold := by
  cases isResult : visit.result with
  | none => simp [speaks, isTold, failed, finished, isResult]
  | some result =>
    cases result with
    | error e => cases e <;> simp [speaks, isTold, failed, finished, isResult]
    | ok done =>
      obtain ⟨report, after⟩ := done
      have reports := Step.Does.reports (admits.yields _ isResult)
      simpa [speaks, isTold, failed, finished, isResult, Node.kind] using reports

theorem not_failed_of_finished {visit : Visit} (finished : visit.finished = true) :
    visit.failed = false := by
  unfold Visit.finished at finished
  unfold Visit.failed
  split at finished
  · rename_i isResult
    rw [isResult]
  · cases finished

end Visit

namespace Graph

/-- The visits from which a run has moved on or at which it has completed. The last one is not among
them while it goes on, if it was not passed, or if it was an assertion without an edge. -/
def behind (graph : Graph) (tolerance : UInt32) (visits : List Visit) : List Visit :=
  match visits.getLast? with
  | none => []
  | some last =>
    if (last.finished ∨ last.failed ∧ visits.countP Visit.failed ≤ tolerance.toNat) ∧
        (last.verdict = none ∨ graph.exits last.node.id last.verdict ≠ []) then visits
    else visits.dropLast

end Graph

namespace Journey

variable {graph : Graph} {tolerance : UInt32} {visits before : List Visit} {visit : Visit}
  {journey : Journey}

theorem behind_cases (graph : Graph) (tolerance : UInt32) (visits : List Visit) :
    visits = graph.behind tolerance visits ∨
      ∃ last, visits = graph.behind tolerance visits ++ [last] := by
  unfold Graph.behind
  rcases visits.eq_nil_or_concat' with rfl | ⟨before, last, rfl⟩
  · exact .inl rfl
  · rw [List.getLast?_concat]
    dsimp only
    split
    · exact .inl rfl
    · exact .inr ⟨last, by rw [List.dropLast_concat]⟩

theorem behind_of_passed (passed : Passed tolerance (before ++ [visit]) visit)
    (onward : visit.verdict = none ∨ graph.exits visit.node.id visit.verdict ≠ []) :
    graph.behind tolerance (before ++ [visit]) = before ++ [visit] := by
  unfold Graph.behind
  rw [List.getLast?_concat]
  exact if_pos ⟨passed, onward⟩

theorem behind_of_not_passed (failed : ¬ Passed tolerance (before ++ [visit]) visit) :
    graph.behind tolerance (before ++ [visit]) = before := by
  unfold Graph.behind
  rw [List.getLast?_concat]
  dsimp only
  rw [if_neg, List.dropLast_concat]
  rintro ⟨passed, -⟩
  exact failed passed

theorem behind_of_deadEnd {label : Bool} (verdict : visit.verdict = some label)
    (nothing : graph.exits visit.node.id visit.verdict = []) :
    graph.behind tolerance (before ++ [visit]) = before := by
  unfold Graph.behind
  rw [List.getLast?_concat]
  dsimp only
  rw [if_neg, List.dropLast_concat]
  rintro ⟨-, plain | onward⟩
  · rw [verdict] at plain
    cases plain
  · exact onward nothing

theorem Expects.behind_eq {node : Node} (expected : Expects graph tolerance visits node) :
    graph.behind tolerance visits = visits := by
  rcases expected with ⟨rfl, -⟩ | ⟨last, isLast, passed, edge, only, -⟩
  · rfl
  · obtain ⟨before, rfl⟩ := List.getLast?_eq_some_iff.mp isLast
    exact behind_of_passed passed (.inr (by simp [only]))

theorem Sound.behind_of_suspended (sound : Sound graph tolerance journey) {step : Suspended}
    (suspended : journey.run.phase = .suspended step) :
    ∃ before last, journey.visits = before ++ [last] ∧
      graph.behind tolerance journey.visits = before ∧ last.verdict = none ∧
      ∀ result, AtVisit graph tolerance journey.run before { last with result } := by
  obtain ⟨before, last, visits, plain, at_⟩ := sound.resuming suspended
  refine ⟨before, last, visits, ?_, plain, at_⟩
  have stands := sound.stands
  rw [suspended, visits] at stands
  rw [visits]
  apply behind_of_not_passed
  cases stands with
  | suspended isLast same unasked pending =>
    cases List.getLast?_concat.symm.trans isLast
    simp [Passed, Visit.finished, Visit.failed, pending]

theorem not_passed_of_interrupted {reason : Interruption}
    (isResult : visit.result = some (.error (.interrupted reason))) :
    ¬ Passed tolerance visits visit := by
  apply not_passed_of_error isResult
  intro failure same
  cases same

/-- All these visits were passed, and the entries tell of them. -/
structure Told (tolerance : UInt32) (visits : List Visit) (entries : List LogEntry) : Prop where
  passed : ∀ visit ∈ visits, visit.finished = true ∨ visit.failed = true
  tolerated : visits.countP Visit.failed ≤ tolerance.toNat
  told : List.Forall₂ Visit.Tells (visits.filter Visit.speaks) entries

theorem Told.nil : Told tolerance [] [] where
  passed visit member := by cases member
  tolerated := Nat.zero_le _
  told := .nil

theorem Told.snoc {entries more : List LogEntry} (told : Told tolerance before entries)
    (passed : Passed tolerance (before ++ [visit]) visit)
    (tells : List.Forall₂ Visit.Tells ([visit].filter Visit.speaks) more) :
    Told tolerance (before ++ [visit]) (entries ++ more) where
  passed := by
    rw [List.forall_mem_append]
    refine ⟨told.passed, ?_⟩
    intro other member
    rw [List.mem_singleton.mp member]
    exact passed.imp_right And.left
  tolerated := by
    rcases passed with finished | ⟨-, bound⟩
    · have unfailed : visit.failed = false := Visit.not_failed_of_finished finished
      simpa [unfailed] using told.tolerated
    · exact bound
  told := by
    rw [List.filter_append]
    exact List.rel_append told.told tells

/-- Of the visits that are told, just the failures are errors. -/
theorem errors_of_tells {entries : List LogEntry}
    (tells : List.Forall₂ Visit.Tells visits entries) :
    entries.countP (·.level = .error) = visits.countP Visit.failed := by
  induction tells with
  | nil => rfl
  | cons head _ ih =>
    rw [List.countP_cons, List.countP_cons, ih]
    simp [head.level_iff]

theorem Told.errors {entries : List LogEntry} (told : Told tolerance visits entries) :
    entries.countP (·.level = .error) = visits.countP Visit.failed := by
  rw [errors_of_tells told.told, List.countP_filter]
  -- There is something to tell of every failure, so none is filtered out.
  congr
  funext visit
  cases failed : visit.failed with
  | false => rfl
  | true => simp [Visit.speaks_of_failed failed]

end Journey

end Scenario
