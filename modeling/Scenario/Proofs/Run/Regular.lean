import Scenario.Proofs.Run.Outcome
import Scenario.Proofs.Run.Yield
/-!
Runs of graphs that were built.

`Run.Regular` is what a look at such a run keeps, at whatever time and with whatever transport: the
run has the handler for its node and a node to go to, so its error is never a defect.
-/
namespace Scenario

/-- The errors of runs: the others are those of jobs that never became one, and defects. -/
def RunError.ArisesInRun : RunError → Prop
  | .deadEnd _ _ | .request _ | .invalidStep _ | .timedOut _ => True
  | .graph _ | .document _ | .defect _ => False

theorem StepError.arisesInRun {e : StepError} (sane : ∀ defect, e ≠ .defect defect)
    {timeout : UInt64} {error : RunError} (reported : e.runError timeout = some error) :
    error.ArisesInRun := by
  cases e with
  | requestFailed failure =>
    cases reported
    trivial
  | invalid fault =>
    cases reported
    trivial
  | interrupted reason =>
    cases reason with
    | cancelled => cases reported
    | timedOut =>
      cases reported
      trivial
  | defect e => exact absurd rfl (sane e)

/-- The step was not hindered by a defect. -/
def StepResult.Sane (result : StepResult) : Prop := ∀ e, result ≠ .error (.defect e)

theorem StepResult.sane_ok (done : StepReport × Context) : StepResult.Sane (.ok done) := by
  rintro e ⟨⟩

theorem StepResult.sane_interrupted (reason : Interruption) :
    StepResult.Sane (.error (.interrupted reason)) := by
  rintro e ⟨⟩

theorem Step.Yields.sane {step : Step} {node : String} {context : Context} {now : Nat}
    {transport : Transport} {result : StepResult}
    (yields : step.Yields node context now transport result) : result.Sane := by
  rintro e rfl
  cases yields

theorem Suspended.sane_of_look {step : Suspended} {context : Context} {now : Nat}
    {result : StepResult} (finished : step.look context now = .finished result) : result.Sane := by
  cases step with
  | delay duration operation =>
    rw [look] at finished
    split at finished
    · cases finished
    · cases finished
      exact StepResult.sane_interrupted _
    · cases finished
      exact StepResult.sane_ok _
  | request node request operation =>
    rw [look] at finished
    split at finished
    · cases finished
    · cases finished
      exact StepResult.sane_interrupted _
    · rename_i answer _
      cases finished
      cases answer with
      | ok response => exact StepResult.sane_ok _
      | error failure => rintro e ⟨⟩

theorem Suspended.leaves_of_look {step : Suspended} {context : Context} {now : Nat}
    {result : StepResult} (finished : step.look context now = .finished result) :
    result.Leaves context none := by
  cases limit : context.limits.interruption? now with
  | some reason =>
    rw [look_of_interrupted limit] at finished
    cases finished
    rintro report after ⟨⟩
  | none =>
    by_cases cancels : step.hasCancelled now = true
    · rw [look_of_hasCancelled limit cancels] at finished
      cases finished
      rintro report after ⟨⟩
    · have quiet : step.hasCancelled now = false := by simpa using cancels
      rcases look_of_free limit quiet with waiting | ⟨other, done, leaves, -⟩
      · rw [waiting] at finished
        cases finished
      · rw [done] at finished
        cases finished
        exact leaves

namespace Run

/-- A run of a graph that was built, with a handler for every kind. -/
structure Regular (run : Run) : Prop where
  runnable : run.graph.flow.Runnable
  standard : run.registry = .standard
  member : run.node ∈ run.graph.nodes
  /-- Assertions do not wait. -/
  waits : ∀ step, run.phase = .suspended step → run.node.kind ≠ .assertion
  ends : ∀ ending, run.phase = .ended ending → ∀ error ∈ ending.error, error.ArisesInRun

variable {run : Run}

theorem Regular.stop (regular : run.Regular) (now : Nat) {e : StepError}
    (sane : ∀ defect, e ≠ .defect defect) : (run.stop now e).Regular := by
  obtain ⟨log, stopped⟩ := run.stop_eq now e
  rw [stopped]
  constructor
  · exact regular.runnable
  · exact regular.standard
  · exact regular.member
  · rintro step ⟨⟩
  · rintro ending ⟨⟩ error reported
    exact StepError.arisesInRun sane reported

theorem Regular.stands (regular : run.Regular) {log : List LogEntry} {node : Node} {phase : Phase}
    (member : node ∈ run.graph.nodes)
    (waits : ∀ step, phase = .suspended step → node.kind ≠ .assertion)
    (ends : ∀ ending, phase = .ended ending → ∀ error ∈ ending.error, error.ArisesInRun) :
    (run.stands log node phase).Regular :=
  ⟨regular.runnable, regular.standard, member, waits, ends⟩

theorem Regular.advance (regular : run.Regular) (now : Nat) (line : Option Line)
    {branch : Option Bool} (fits : branch = none ↔ run.node.kind ≠ .assertion) :
    (run.advance now line branch).Regular := by
  rcases run.advance_cases regular.runnable regular.member fits now line with
    ⟨edge, target, log, -, inside, -, gone⟩ | ⟨log, -, -, gone⟩ | ⟨label, log, -, -, gone⟩
  · rw [gone]
    exact regular.stands inside (by rintro step ⟨⟩) (by rintro ending ⟨⟩)
  · rw [gone]
    exact regular.stands regular.member (by rintro step ⟨⟩) (by rintro ending ⟨⟩ error ⟨⟩)
  · rw [gone]
    refine regular.stands regular.member (by rintro step ⟨⟩) ?_
    rintro ending ⟨⟩ error ⟨⟩
    trivial

/-- A step that is over says where the run goes on or why it stops. -/
theorem Regular.proceed (regular : run.Regular) (now : Nat) {result : StepResult}
    {branch : Option Bool} (fits : branch = none ↔ run.node.kind ≠ .assertion)
    (leaves : result.Leaves run.context branch) (sane : result.Sane)
    (sure : run.node.kind = .assertion → ∃ done, result = .ok done) :
    (run.proceed now (.finished result)).Regular := by
  rcases run.proceed_finished_cases now result with ⟨report, context, rfl, gone⟩ |
    ⟨failure, rfl, -, gone⟩ | ⟨e, rfl, -, gone⟩
  · rw [gone, (leaves report context rfl).1]
    have kept : { run with context }.Regular :=
      ⟨regular.runnable, regular.standard, regular.member, regular.waits, regular.ends⟩
    exact kept.advance now _ fits
  · have plain : run.node.kind ≠ .assertion := by
      intro asserts
      obtain ⟨done, same⟩ := sure asserts
      cases same
    have kept : { run with tolerated := run.tolerated + 1 }.Regular :=
      ⟨regular.runnable, regular.standard, regular.member, regular.waits, regular.ends⟩
    rw [gone]
    exact kept.advance now _ (iff_of_true rfl plain)
  · rw [gone]
    refine regular.stop now ?_
    rintro defect rfl
    exact sane defect rfl

theorem Regular.look (regular : run.Regular) {step : Suspended}
    (plain : run.node.kind ≠ .assertion) (now : Nat) :
    (run.proceed now (step.look run.context now)).Regular := by
  cases seen : step.look run.context now with
  | suspended other =>
    refine ⟨regular.runnable, regular.standard, regular.member, fun _ _ => plain, ?_⟩
    rintro ending ⟨⟩
  | finished result =>
    exact regular.proceed now (iff_of_true rfl plain) (Suspended.leaves_of_look seen)
      (Suspended.sane_of_look seen) fun asserts => absurd asserts plain

theorem Regular.dispatch (regular : run.Regular) (now : Nat) (transport : Transport) :
    (run.dispatch now transport).1.Regular := by
  unfold Run.dispatch
  cases limit : run.context.limits.interruption? now with
  | some reason => exact regular.stop now (by rintro defect ⟨⟩)
  | none =>
    -- The handler is there, and it is the one for the step.
    have found : run.registry.get run.node.kind = .ok run.node.kind := by
      rw [regular.standard]
      rfl
    rw [found]
    dsimp only
    rw [Node.start, if_pos rfl]
    rcases Step.start_of_free limit with ⟨result, done, leaves, -, sure⟩ |
      ⟨step, after, waits, plain, -⟩
    · obtain ⟨yields, -⟩ := Step.yields_of_start done
      rw [done]
      exact regular.proceed now (Step.verdict_eq_none_iff _ _) leaves yields.sane sure
    · rw [waits]
      exact regular.look plain now

theorem Regular.poll (regular : run.Regular) (now : Nat) (transport : Transport) :
    (run.poll now transport).1.Regular := by
  unfold Run.poll
  cases phase : run.phase with
  | ready => exact regular.dispatch now transport
  | suspended step => exact regular.look (regular.waits step phase) now
  | ended ending => exact regular

theorem Regular.cancel (regular : run.Regular) : run.cancel.Regular :=
  ⟨regular.runnable, regular.standard, regular.member, regular.waits, regular.ends⟩

theorem regular_start {flow : Flow} {graph : Graph} (built : Graph.build flow = .ok graph)
    (tolerance : UInt32) (epoch : Nat) (vars : Variables) (timeout : UInt64) (now : Nat) :
    (start graph .standard tolerance epoch vars timeout now).Regular := by
  obtain ⟨runnable, rfl, member, -⟩ := (Graph.build_eq_ok_iff flow graph).mp built
  exact ⟨runnable, rfl, member, by rintro step ⟨⟩, by rintro ending ⟨⟩⟩

end Run

end Scenario
